import Provision.Dialogue
import Provision.Event
import Provision.Terraform.Invocation

/-!
Sessions: computations that may run terraform and may log. An executor gives the answers.
-/

set_option autoImplicit false

namespace Provision.Terraform

inductive Request where
  | log (e : Event)
  | execute (i : Invocation) (c : Context)
  | wording (sub : Subcommand)

abbrev Request.Answer : Request → Type
  | .log _ => Unit
  | .execute _ _ => Reply
  | .wording _ => Wording

abbrev Session := Dialogue Request Request.Answer

namespace Session

def log (e : Event) : Session Unit := Dialogue.question (Request.log e)

def execute (i : Invocation) (c : Context) : Session Reply :=
  Dialogue.question (Request.execute i c)

def wording (sub : Subcommand) : Session Wording := Dialogue.question (Request.wording sub)

end Session

/-- An executor answers invocations from a state of its own. Nothing is assumed of how its answers
are complained about. -/
structure Executor (σ : Type) where
  execute : Invocation → Context → σ → Reply × σ
  wording : Subcommand → Wording := fun _ _ => ""

/-- What a session leaves behind: the executor's state, and what was logged and run, latest first.
-/
structure Trace (σ : Type) where
  state : σ
  events : List Event := []
  invocations : List Invocation := []

namespace Executor

variable {σ : Type}

def answer (x : Executor σ) : (q : Request) → Trace σ → q.Answer × Trace σ
  | .log e, t => ((), { t with events := e :: t.events })
  | .execute i c, t =>
    let (reply, s) := x.execute i c t.state
    (reply, { t with state := s, invocations := i :: t.invocations })
  | .wording sub, t => (x.wording sub, t)

def run {α : Type} (x : Executor σ) (d : Session α) (t : Trace σ) : α × Trace σ :=
  Dialogue.run x.answer d t

end Executor
end Provision.Terraform
