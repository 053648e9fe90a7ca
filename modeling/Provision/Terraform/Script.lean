import Provision.Json.Printer
import Provision.Terraform.Session

/-!
An executor that answers from a script. Responses wait in a queue for each subcommand and are given
out in order; after them a responder answers, if there is one, and otherwise an empty success.
-/

set_option autoImplicit false

namespace Provision.Terraform

structure Script where
  queue : Subcommand → List ProcessOutput
  responder : Subcommand → Option (Invocation → ProcessOutput)
  calls : List Invocation

namespace Script

def empty : Script := ⟨fun _ => [], fun _ => none, []⟩

instance : Inhabited Script := ⟨empty⟩

def push (s : Script) (c : Subcommand) (o : ProcessOutput) : Script :=
  { s with queue := fun d => if d = c then s.queue d ++ [o] else s.queue d }

def pushOutputs (s : Script) (document : Json) : Script :=
  s.push .output (.ok .output document.compact)

def respondWith (s : Script) (c : Subcommand) (f : Invocation → ProcessOutput) : Script :=
  { s with responder := fun d => if d = c then some f else s.responder d }

def callsOf (s : Script) (c : Subcommand) : List Invocation :=
  s.calls.filter fun i => i.subcommand = c

def execute (i : Invocation) (s : Script) : ProcessOutput × Script :=
  let s := { s with calls := s.calls ++ [i] }
  match s.queue i.subcommand with
  | o :: os =>
    (o, { s with queue := fun d => if d = i.subcommand then os else s.queue d })
  | [] =>
    match s.responder i.subcommand with
    | some f => (f i, s)
    | none => (.ok i.subcommand "", s)

/-- A script takes no notice of time limits. -/
def executor (wording : Subcommand → Wording := fun _ _ => "") : Executor Script where
  execute i _ s := let (o, s) := s.execute i; (.ok o, s)
  wording := wording

def display (s : Script) : String :=
  "ScriptedExecutor \x7b calls: " ++ toString s.calls.length ++ ", .. \x7d"

end Script
end Provision.Terraform
