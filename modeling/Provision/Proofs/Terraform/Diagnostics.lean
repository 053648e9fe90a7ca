import Provision.Proofs.Exchange
import Provision.Terraform.Script

/-!
What each step of terraform makes of its reply. A process that fails becomes the failure of its own
step, with all that it wrote. An answer that a query cannot read becomes one as well, although the
process succeeded and the text is none of its own.
-/

set_option autoImplicit false

namespace Provision

def Failure.reported (ws : Path) (d : String) : Terraform.Subcommand → Failure
  | .init => .init ws d
  | .apply => .apply ws d
  | .destroy => .destroy ws d
  | .output => .output .output ws d
  | .show => .output .show ws d

@[simp] theorem Failure.diagnostics_reported (ws : Path) (d : String) (sub : Terraform.Subcommand) :
    (reported ws d sub).diagnostics = some d := by
  cases sub <;> rfl

theorem Failure.message_reported (ws : Path) (d : String) (sub : Terraform.Subcommand) :
    (reported ws d sub).message = failedIn sub ws ++ d := by
  cases sub <;> rfl

theorem Failure.isToolFailure_iff {f : Failure} :
    f.isToolFailure = true ↔ ∃ d, f.diagnostics = some d := Option.isSome_iff_exists

namespace Terraform

variable {σ : Type}

inductive Action where
  | init
  | apply (vars : List String)
  | applyWithFiles (vars : List String) (files : List Path)
  | destroy (vars : List String)
  | output
  | «show»

inductive Answer where
  | process (out : ProcessOutput)
  | outputs (o : Outputs)
  | state (s : StateDocument)

namespace Action

def perform (ws : Path) (c : Context) : Action → Session (Except Failure Answer)
  | .init => do
    let r ← Terraform.init ws c
    pure (r.map .process)
  | .apply vars => do
    let r ← Terraform.apply ws vars c
    pure (r.map .process)
  | .applyWithFiles vars files => do
    let r ← Terraform.applyWithFiles ws vars files c
    pure (r.map .process)
  | .destroy vars => do
    let r ← Terraform.destroy ws vars c
    pure (r.map .process)
  | .output => do
    let r ← Terraform.output ws c
    pure (r.map .outputs)
  | .show => do
    let r ← Terraform.show ws c
    pure (r.map .state)

def subcommand : Action → Subcommand
  | .init => .init
  | .apply _ | .applyWithFiles .. => .apply
  | .destroy _ => .destroy
  | .output => .output
  | .show => .show

def args : Action → List String
  | .init => initArgs
  | .apply vars => mutatingArgs vars
  | .applyWithFiles vars files => mutatingArgs (vars ++ Variables.encodeFiles files)
  | .destroy vars => mutatingArgs vars
  | .output | .show => queryArgs

def invocation (ws : Path) (a : Action) : Invocation := ⟨a.subcommand, ws, a.args⟩

def read? (out : ProcessOutput) : Action → Option Answer
  | .output => (Outputs.parse? out.stdout).map .outputs
  | .show => (StateDocument.parse? out.stdout).map .state
  | _ => some (.process out)

/-- The process succeeded, but its answer cannot be read. -/
def Garbled (a : Action) (out : ProcessOutput) : Prop := out.exitCode = 0 ∧ a.read? out = none

def complaint (say : Subcommand → Wording) (out : ProcessOutput) : Action → String
  | .show => "unparsable state JSON: " ++ say .show out.stdout
  | _ => "unparsable output JSON: " ++ say .output out.stdout

def conclude (say : Subcommand → Wording) (ws : Path) (a : Action) : Reply → Except Failure Answer
  | .error i => .error (.interrupted i)
  | .ok out =>
    if out.exitCode = 0 then
      match a.read? out with
      | some v => .ok v
      | none => .error (.reported ws (a.complaint say out) a.subcommand)
    else .error (.reported ws out.combined a.subcommand)

section Conclude

variable {say : Subcommand → Wording} {ws : Path} {a : Action} {out : ProcessOutput}

theorem conclude_failed (hx : out.exitCode ≠ 0) :
    a.conclude say ws (.ok out) = .error (.reported ws out.combined a.subcommand) := if_neg hx

theorem conclude_garbled (hg : a.Garbled out) :
    a.conclude say ws (.ok out) = .error (.reported ws (a.complaint say out) a.subcommand) := by
  simp only [conclude, if_pos hg.1, hg.2]

theorem conclude_read {v : Answer} (hx : out.exitCode = 0) (hv : a.read? out = some v) :
    a.conclude say ws (.ok out) = .ok v := by
  simp only [conclude, if_pos hx, hv]

/-- A step fails for one of three reasons. -/
theorem conclude_eq_error_iff {r : Reply} {e : Failure} : a.conclude say ws r = .error e ↔
    (∃ i, r = .error i ∧ e = .interrupted i) ∨
      (∃ out, r = .ok out ∧ out.exitCode ≠ 0 ∧ e = .reported ws out.combined a.subcommand) ∨
      ∃ out, r = .ok out ∧ a.Garbled out ∧ e = .reported ws (a.complaint say out) a.subcommand := by
  constructor
  · intro h
    cases r with
    | error i =>
      cases h
      exact .inl ⟨i, rfl, rfl⟩
    | ok out =>
      by_cases hx : out.exitCode = 0
      · cases hv : a.read? out with
        | some v =>
          rw [conclude_read hx hv] at h
          cases h
        | none =>
          rw [conclude_garbled ⟨hx, hv⟩] at h
          cases h
          exact .inr (.inr ⟨out, rfl, ⟨hx, hv⟩, rfl⟩)
      · rw [conclude_failed hx] at h
        cases h
        exact .inr (.inl ⟨out, rfl, hx, rfl⟩)
  · rintro (⟨i, rfl, rfl⟩ | ⟨out, rfl, hx, rfl⟩ | ⟨out, rfl, hg, rfl⟩)
    · rfl
    · exact conclude_failed hx
    · exact conclude_garbled hg

end Conclude

theorem map_completed (say : Subcommand → Wording) (ws : Path) (a : Action)
    (ha : ∀ out, a.read? out = some (.process out)) (r : Reply) :
    (completed (fun d => .reported ws d a.subcommand) r).map .process = a.conclude say ws r := by
  cases r with
  | error i => rfl
  | ok out =>
    rw [completed_ok, conclude, ha]
    split <;> rfl

theorem map_outputsOf (say : Subcommand → Wording) (ws : Path) (r : Reply) :
    (outputsOf (say .output) ws r).map .outputs = output.conclude say ws r := by
  cases r with
  | error i => rfl
  | ok out =>
    simp only [outputsOf, completed_ok, conclude, read?]
    by_cases hx : out.exitCode = 0
    · simp only [if_pos hx]
      cases Outputs.parse? out.stdout <;> rfl
    · simp only [if_neg hx]
      rfl

theorem map_stateOf (say : Subcommand → Wording) (ws : Path) (r : Reply) :
    (stateOf (say .show) ws r).map .state = Action.show.conclude say ws r := by
  cases r with
  | error i => rfl
  | ok out =>
    simp only [stateOf, completed_ok, conclude, read?]
    by_cases hx : out.exitCode = 0
    · simp only [if_pos hx]
      cases StateDocument.parse? out.stdout <;> rfl
    · simp only [if_neg hx]
      rfl

theorem ensures_perform (say : Subcommand → Wording) (ws : Path) (c : Context) (a : Action)
    (P : List Exchange → Except Failure Answer → Prop) :
    (a.perform ws c).Ensures say P ↔ ∀ r, P [⟨a.invocation ws, r⟩] (a.conclude say ws r) := by
  cases a with
  | init =>
    have h : ∀ r, (completed (.init ws) r).map .process = init.conclude say ws r :=
      map_completed say ws .init fun _ => rfl
    simp [perform, invocation, subcommand, args, h]
  | apply vars =>
    have h : ∀ r, (completed (.apply ws) r).map .process = (apply vars).conclude say ws r :=
      map_completed say ws (.apply vars) fun _ => rfl
    simp [perform, invocation, subcommand, args, h]
  | applyWithFiles vars files =>
    have h : ∀ r, (completed (.apply ws) r).map .process =
        (applyWithFiles vars files).conclude say ws r :=
      map_completed say ws (.applyWithFiles vars files) fun _ => rfl
    simp [perform, invocation, subcommand, args, Terraform.applyWithFiles, h]
  | destroy vars =>
    have h : ∀ r, (completed (.destroy ws) r).map .process = (destroy vars).conclude say ws r :=
      map_completed say ws (.destroy vars) fun _ => rfl
    simp [perform, invocation, subcommand, args, h]
  | output => simp [perform, invocation, subcommand, args, map_outputsOf]
  | «show» => simp [perform, invocation, subcommand, args, map_stateOf]

theorem converse_perform (ws : Path) (c : Context) (a : Action) (y : Executor σ) (w : σ) :
    ∃ r, (y.converse (a.perform ws c) w).exchanges = [⟨a.invocation ws, r⟩] ∧
      (y.converse (a.perform ws c) w).result = a.conclude y.wording ws r := by
  have h : (a.perform ws c).Ensures y.wording fun es v =>
      ∃ r, es = [⟨a.invocation ws, r⟩] ∧ v = a.conclude y.wording ws r :=
    (ensures_perform y.wording ws c a _).mpr fun r => ⟨r, rfl, rfl⟩
  exact Session.converse_of_ensures y h w

end Action

/-- A step that fails names the tool exactly if a process ran to its end, and failed or gave an
answer that cannot be read. Of a failed process the diagnostics are what it wrote; of an unreadable
answer they are not. -/
theorem toolFailure_of_step (a : Action) (ws : Path) (c : Context) (y : Executor σ) (w : σ) :
    let v := y.converse (a.perform ws c) w
    ∃ r, v.exchanges = [⟨a.invocation ws, r⟩] ∧
      ((∃ e, v.result = .error e) ↔
        (∃ i, r = .error i) ∨ ∃ out, r = .ok out ∧ (out.exitCode ≠ 0 ∨ a.Garbled out)) ∧
      ∀ e, v.result = .error e →
        (e.isToolFailure = true ↔ ∃ d, e.diagnostics = some d) ∧
        ((e.isToolFailure = true ↔ ∃ out, r = .ok out ∧ out.exitCode ≠ 0) ↔
          ¬ ∃ out, r = .ok out ∧ a.Garbled out) ∧
        (∀ out, r = .ok out → out.exitCode ≠ 0 → e.diagnostics = some out.combined) ∧
        ∀ out, r = .ok out → a.Garbled out → e.diagnostics = some (a.complaint y.wording out) := by
  intro v
  obtain ⟨r, he, hv⟩ := a.converse_perform ws c y w
  rw [hv]
  refine ⟨r, he, ?_, ?_⟩
  · simp only [Action.conclude_eq_error_iff, exists_or]
    constructor
    · rintro (⟨e, i, hr, -⟩ | ⟨e, out, hr, hx, -⟩ | ⟨e, out, hr, hg, -⟩)
      · exact .inl ⟨i, hr⟩
      · exact .inr ⟨out, hr, .inl hx⟩
      · exact .inr ⟨out, hr, .inr hg⟩
    · rintro (⟨i, hr⟩ | ⟨out, hr, hx | hg⟩)
      · exact .inl ⟨_, i, hr, rfl⟩
      · exact .inr (.inl ⟨_, out, hr, hx, rfl⟩)
      · exact .inr (.inr ⟨_, out, hr, hg, rfl⟩)
  · intro e hr
    refine ⟨Failure.isToolFailure_iff, ?_⟩
    rcases Action.conclude_eq_error_iff.mp hr with
      ⟨i, rfl, rfl⟩ | ⟨out, rfl, hx, rfl⟩ | ⟨out, rfl, hg, rfl⟩
    · simp [Failure.isToolFailure_iff, Failure.diagnostics]
    · simp [Failure.isToolFailure_iff, Action.Garbled, hx]
    · simp [Failure.isToolFailure_iff, hg, hg.1]

/-- A list in place of the outputs, of a process that succeeded and wrote nothing else. -/
theorem toolFailure_of_list :
    let reason := "invalid type: sequence, expected a map"
    let x := Script.executor fun _ _ => reason
    let v := x.converse (Action.output.perform ⟨"ws"⟩ ⟨none, false⟩)
      (Script.empty.push .output (.ok .output "[1, 2]"))
    let e : Failure := .output .output ⟨"ws"⟩ ("unparsable output JSON: " ++ reason)
    v.exchanges.map Exchange.reply = [.ok ⟨.output, 0, "[1, 2]", ""⟩] ∧
      v.result = .error e ∧ e.isToolFailure = true ∧
      e.diagnostics ≠ some (ProcessOutput.mk .output 0 "[1, 2]" "").combined := by
  intro reason x v e
  have hp : Outputs.parse? "[1, 2]" = none := by decide +kernel
  have hg : Action.output.Garbled (.ok .output "[1, 2]") :=
    ⟨rfl, by rw [Action.read?, ProcessOutput.ok, hp]; rfl⟩
  obtain ⟨r, he, hv⟩ := Action.output.converse_perform ⟨"ws"⟩ ⟨none, false⟩ x
    (Script.empty.push .output (.ok .output "[1, 2]"))
  have hq : v.exchanges.map Exchange.reply = [.ok (.ok .output "[1, 2]")] := rfl
  have hr : r = .ok (.ok .output "[1, 2]") := by
    have hx : v.exchanges = [⟨Action.output.invocation ⟨"ws"⟩, r⟩] := he
    rw [hx] at hq
    exact List.singleton_inj.mp hq
  subst hr
  exact ⟨hq, hv.trans (Action.conclude_garbled hg), rfl, by decide⟩

end Terraform
end Provision
