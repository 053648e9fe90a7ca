import Provision.Proofs.Redaction

/-!
Two dialogues side by side. They are in step if they ask alike questions for as long as they are
given the same answers. Sessions whose invocations differ only in what is masked stay in step when
terraform runs as a child process, so they log the same.
-/

set_option autoImplicit false

namespace Provision

namespace Dialogue

variable {Q R : Type} {A : Q → Type} {B : R → Type} {α β γ δ : Type} {alike : Q → Q → Prop}

/-- As long as the answers are the same the questions are alike, and both end at once with values
that `ends` relates. -/
def LockStep (alike : Q → Q → Prop) (ends : α → β → Prop) :
    Dialogue Q A α → Dialogue Q A β → Prop
  | .done a, .done b => ends a b
  | .ask q f, .ask r g => alike q r ∧ ∀ a b, HEq a b → LockStep alike ends (f a) (g b)
  | _, _ => False

theorem lockStep_refl (hr : ∀ q, alike q q) (d : Dialogue Q A α) : LockStep alike Eq d d := by
  induction d with
  | done a => rfl
  | ask q next ih =>
    refine ⟨hr q, fun a b hab => ?_⟩
    cases hab
    exact ih a

namespace LockStep

variable {ends : α → β → Prop} {ends' : γ → δ → Prop} {d : Dialogue Q A α} {e : Dialogue Q A β}

theorem imp {wider : α → β → Prop} (h : LockStep alike ends d e)
    (hw : ∀ a b, ends a b → wider a b) : LockStep alike wider d e := by
  induction d generalizing e with
  | done a =>
    cases e with
    | done b => exact hw a b h
    | ask r next' => exact h.elim
  | ask q next ih =>
    cases e with
    | done b => exact h.elim
    | ask r next' => exact ⟨h.1, fun a b hab => ih a (h.2 a b hab)⟩

theorem bind (h : LockStep alike ends d e) {f : α → Dialogue Q A γ} {g : β → Dialogue Q A δ}
    (hf : ∀ a b, ends a b → LockStep alike ends' (f a) (g b)) :
    LockStep alike ends' (d.bind f) (e.bind g) := by
  induction d generalizing e with
  | done a =>
    cases e with
    | done b => exact hf a b h
    | ask r next' => exact h.elim
  | ask q next ih =>
    cases e with
    | done b => exact h.elim
    | ask r next' => exact ⟨h.1, fun a b hab => ih a (h.2 a b hab)⟩

theorem bind_eq {d e : Dialogue Q A α} (h : LockStep alike Eq d e) {f : α → Dialogue Q A γ}
    {g : α → Dialogue Q A δ} (hf : ∀ a, LockStep alike ends' (f a) (g a)) :
    LockStep alike ends' (d.bind f) (e.bind g) := by
  refine h.bind ?_
  rintro a _ rfl
  exact hf a

theorem within {alike' : R → R → Prop} {answer : (q : Q) → Dialogue R B (A q)}
    (ha : ∀ q r, alike q r → LockStep alike' (fun a b => HEq a b) (answer q) (answer r))
    (h : LockStep alike ends d e) :
    LockStep alike' ends (d.within answer) (e.within answer) := by
  induction d generalizing e with
  | done a =>
    cases e with
    | done b => exact h
    | ask r next' => exact h.elim
  | ask q next ih =>
    cases e with
    | done b => exact h.elim
    | ask r next' => exact (ha q r h.1).bind fun a b hab => ih a (h.2 a b hab)

end LockStep
end Dialogue

open Dialogue (LockStep lockStep_refl)
open Redaction (redact)

namespace Terraform

def Invocation.redacted (i : Invocation) : Invocation := { i with args := redact i.args }

inductive Request.Alike : Request → Request → Prop
  | log (e : Event) : Alike (.log e) (.log e)
  | execute {i j : Invocation} (h : i.redacted = j.redacted) (c : Context) :
    Alike (.execute i c) (.execute j c)
  | wording (sub : Subcommand) : Alike (.wording sub) (.wording sub)

theorem Request.alike_refl (q : Request) : q.Alike q := by
  cases q with
  | log e => exact .log e
  | execute i c => exact .execute rfl c
  | wording sub => exact .wording sub

theorem Session.lockStep_execute {i j : Invocation} (h : i.redacted = j.redacted) (c : Context) :
    LockStep Request.Alike Eq (Session.execute i c) (Session.execute j c) := by
  refine ⟨.execute h c, fun a b hab => ?_⟩
  cases hab
  rfl

section Steps

variable (ws : Path) (c : Context)

theorem lockStep_run (sub : Subcommand) {args args' : List String} (h : redact args = redact args') :
    LockStep Request.Alike Eq (run sub ws args c) (run sub ws args' c) := by
  have hi : (Invocation.mk sub ws args).redacted = (Invocation.mk sub ws args').redacted :=
    congrArg (Invocation.mk sub ws) h
  refine (lockStep_refl Request.alike_refl _).bind_eq fun _ => ?_
  exact (Session.lockStep_execute hi c).bind_eq fun _ => lockStep_refl Request.alike_refl _

theorem redact_mutatingArgs_eq {vars vars' : List String} (h : redact vars = redact vars') :
    redact (mutatingArgs vars) = redact (mutatingArgs vars') := by
  rw [Redaction.redact_mutatingArgs, Redaction.redact_mutatingArgs, h]

theorem lockStep_apply {vars vars' : List String} (h : redact vars = redact vars') :
    LockStep Request.Alike Eq (apply ws vars c) (apply ws vars' c) := by
  exact (lockStep_run ws c .apply (redact_mutatingArgs_eq h)).bind_eq fun _ => rfl

theorem lockStep_destroy {vars vars' : List String} (h : redact vars = redact vars') :
    LockStep Request.Alike Eq (destroy ws vars c) (destroy ws vars' c) := by
  exact (lockStep_run ws c .destroy (redact_mutatingArgs_eq h)).bind_eq fun _ => rfl

end Steps
end Terraform

namespace Machine

/-- Child processes are alike if their flags are once they are masked; other requests are the same.
-/
inductive Request.Alike : Request → Request → Prop
  | same (q : Request) : Alike q q
  | spawn {c d : Command}
    (h : { c with args := redact c.args } = { d with args := redact d.args }) :
    Alike (.spawn c) (.spawn d)

end Machine

namespace Terraform.Child

variable (x : Child)

theorem command_alike {i j : Invocation} (h : i.redacted = j.redacted) (c : Context) :
    Machine.Request.Alike (.spawn (x.command i c)) (.spawn (x.command j c)) := by
  obtain ⟨sub, ws, args⟩ := i
  obtain ⟨sub', ws', args'⟩ := j
  obtain ⟨rfl, rfl, ha⟩ := Invocation.mk.inj h
  refine .spawn ?_
  simp only [command]
  rw [show redact (sub.name :: args) = redact (sub.name :: args') from congrArg (_ :: ·) ha]

/-- A child logs its masked flags and nothing else of them. -/
theorem lockStep_execute {i j : Invocation} (h : i.redacted = j.redacted) (c : Context) :
    LockStep Machine.Request.Alike Eq (x.execute i c) (x.execute j c) := by
  have hs := x.command_alike h c
  obtain ⟨sub, ws, args⟩ := i
  obtain ⟨sub', ws', args'⟩ := j
  obtain ⟨rfl, rfl, ha⟩ := Invocation.mk.inj h
  have ha : redact args = redact args' := ha
  refine (lockStep_refl .same _).bind_eq fun there => ?_
  cases there with
  | false => rfl
  | true =>
    simp only [if_true, ha]
    refine (lockStep_refl .same _).bind_eq fun _ => ?_
    refine ⟨hs, fun a b hab => ?_⟩
    cases hab
    cases a with
    | error e => rfl
    | ok ending => cases ending <;> exact lockStep_refl .same _

theorem lockStep_drive {α β : Type} {ends : α → β → Prop} {d : Session α} {e : Session β}
    (h : LockStep Request.Alike ends d e) :
    LockStep Machine.Request.Alike ends (x.drive d) (x.drive e) := by
  refine h.within fun q r hqr => ?_
  cases hqr with
  | log e =>
    refine ⟨.same _, fun a b hab => ?_⟩
    cases hab
    exact HEq.rfl
  | execute hi c => exact (x.lockStep_execute hi c).imp fun _ _ => heq_of_eq
  | wording sub =>
    refine ⟨.same _, fun a b hab => ?_⟩
    cases hab
    exact HEq.rfl

end Terraform.Child
end Provision
