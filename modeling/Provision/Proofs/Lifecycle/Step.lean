import Provision.Lifecycle
import Provision.Proofs.Exchange
import Provision.Proofs.Variables

/-!
What one call of a service can do. `Step` lists every ending of every call: what passed between the
service and terraform, the result, and the service afterwards. `ensures_perform` says that the call
ends in one of these ways whatever terraform replies.
-/

set_option autoImplicit false

namespace Provision.Service

open Terraform (Context Session Executor Exchange Reply completed outputsOf initArgs mutatingArgs
  queryArgs)

variable {Args Output : Type}

inductive Call (Args : Type) where
  | init (dir? : Option Path)
  | create (args : Args) (extra : List String)
  | createWithFiles (args : Args) (files : List Path)
  | output
  | destroy (args? : Option Args)

namespace Call

def creation? : Call Args → Option (Args × List String)
  | .create args extra => some (args, extra)
  | .createWithFiles args files => some (args, Variables.encodeFiles files)
  | _ => none

def subcommand : Call Args → Terraform.Subcommand
  | .init _ => .init
  | .create .. | .createWithFiles .. => .apply
  | .output => .output
  | .destroy _ => .destroy

def isInit : Call Args → Bool
  | .init _ => true
  | _ => false

def isCreate (c : Call Args) : Bool := c.creation?.isSome

def isDestroy : Call Args → Bool
  | .destroy _ => true
  | _ => false

@[simp] theorem isCreate_init (dir? : Option Path) : (init dir? : Call Args).isCreate = false := rfl

@[simp] theorem isCreate_output : (output : Call Args).isCreate = false := rfl

@[simp] theorem isCreate_destroy (args? : Option Args) : (destroy args?).isCreate = false := rfl

section Creation

variable {c : Call Args} {a : Args × List String}

theorem isCreate_of_creation (h : c.creation? = some a) : c.isCreate = true := by
  simp [isCreate, h]

theorem subcommand_of_creation (h : c.creation? = some a) : c.subcommand = .apply := by
  cases c <;> simp [creation?] at h <;> rfl

theorem isInit_of_creation (h : c.creation? = some a) : c.isInit = false := by
  cases c <;> simp [creation?] at h <;> rfl

theorem isDestroy_of_creation (h : c.creation? = some a) : c.isDestroy = false := by
  cases c <;> simp [creation?] at h <;> rfl

end Creation

theorem isInit_of_isCreate {c : Call Args} (h : c.isCreate = true) : c.isInit = false := by
  obtain ⟨a, ha⟩ := Option.isSome_iff_exists.mp h
  exact isInit_of_creation ha

end Call

abbrev Result (Output : Type) := Except Failure (Option Output)

def Outcome.silent (o : Outcome Args Output Unit) : Outcome Args Output (Option Output) :=
  (o.1.map fun _ => none, o.2)

def perform (s : Service Args Output) : Call Args → Session (Outcome Args Output (Option Output))
  | .init dir? => do
    let o ← s.init dir?
    pure (Outcome.silent o)
  | .create args extra => do
    let o ← s.create args extra
    pure (Outcome.silent o)
  | .createWithFiles args files => do
    let o ← s.createWithFiles args files
    pure (Outcome.silent o)
  | .output => do
    let o ← s.output
    pure (o.1.map some, o.2)
  | .destroy args? => do
    let o ← s.destroy args?
    pure (Outcome.silent o)

def target (s : Service Args Output) (dir? : Option Path) : Path :=
  dir?.getD (s.kind.defaultDir s.settings)

def workspace? (s : Service Args Output) : Option Path :=
  if s.phase = .uninitialized then none else s.dir

def unready (s : Service Args Output) (step : String) : Failure :=
  .contractViolation (s.kind.name ++ " " ++ step ++ " called before a successful init")

theorem initializedDir_eq (s : Service Args Output) (step : String) :
    s.initializedDir step = s.workspace?.elim (.error (s.unready step)) .ok := by
  cases hp : s.phase <;> cases hd : s.dir <;> simp [initializedDir, workspace?, unready, hp, hd]

def stamped (s : Service Args Output) (args : Args) : Args := s.kind.stamp s.settings.gatewayUrl args

def remembering (s : Service Args Output) (args : Args) : Service Args Output :=
  { s with remembered := some (s.stamped args) }

def withdrawn (s : Service Args Output) : Service Args Output :=
  if s.phase = .created then { s with phase := .initialized, applied := false } else s

@[simp] theorem withdrawn_kind (s : Service Args Output) : s.withdrawn.kind = s.kind := by
  unfold withdrawn; split <;> rfl

@[simp] theorem withdrawn_settings (s : Service Args Output) :
    s.withdrawn.settings = s.settings := by
  unfold withdrawn; split <;> rfl

@[simp] theorem withdrawn_context (s : Service Args Output) : s.withdrawn.context = s.context := by
  unfold withdrawn; split <;> rfl

@[simp] theorem withdrawn_dir (s : Service Args Output) : s.withdrawn.dir = s.dir := by
  unfold withdrawn; split <;> rfl

@[simp] theorem withdrawn_remembered (s : Service Args Output) :
    s.withdrawn.remembered = s.remembered := by
  unfold withdrawn; split <;> rfl

theorem withdrawn_phase (s : Service Args Output) :
    s.withdrawn.phase = if s.phase = .created then .initialized else s.phase := by
  unfold withdrawn; split <;> rfl

theorem withdrawn_applied (s : Service Args Output) :
    s.withdrawn.applied = if s.phase = .created then false else s.applied := by
  unfold withdrawn; split <;> rfl

theorem varsOf_error {s : Service Args Output} {args : Args} {extra : List String} {e : Failure}
    (h : s.varsOf args extra = .error e) : ∃ t, e = .encode t := by
  unfold varsOf at h
  split at h
  · exact ⟨_, Variables.combine_error h⟩
  · cases h
    exact ⟨_, rfl⟩

/-- Both ways to create are one: files are flags behind the variables. -/
theorem createWithFiles_eq_create (s : Service Args Output) (args : Args) (files : List Path) :
    s.createWithFiles args files = s.create args (Variables.encodeFiles files) := by
  unfold createWithFiles create createWith
  cases s.initializedDir "create" with
  | error e => rfl
  | ok dir =>
    simp only [rememberedVars, varsOf]
    cases s.kind.serialise (s.kind.stamp s.settings.gatewayUrl args) with
    | error reason => rfl
    | ok record =>
      cases h : Variables.encode record with
      | error e => simp [Variables.combine, Except.map, h]
      | ok fs => simp [Variables.combine, Except.map, h, Terraform.applyWithFiles]

/-- Why a call is refused before terraform runs and before anything is remembered. -/
inductive Rejection (s : Service Args Output) : Call Args → Failure → Prop
  | createUnready {c : Call Args} {a : Args × List String} (hc : c.creation? = some a)
      (hw : s.workspace? = none) : Rejection s c (s.unready "create")
  | outputUnready (hw : s.workspace? = none) : Rejection s .output (s.unready "output")
  | outputUnapplied {dir : Path} (hw : s.workspace? = some dir) (ha : s.applied = false) :
      Rejection s .output
        (.contractViolation (s.kind.name ++ " output requested before any successful create"))
  | destroyUnset (hr : s.remembered = none) :
      Rejection s (.destroy none)
        (.contractViolation "got unset destroy args, set it in object or pass as a parameter")
  | destroyUnready {args? : Option Args} {args : Args} (ha : args?.or s.remembered = some args)
      (hw : s.workspace? = none) : Rejection s (.destroy args?) (s.unready "destroy")
  | destroyUnencodable {args? : Option Args} {args : Args} {dir : Path} {t : String}
      (ha : args?.or s.remembered = some args) (hw : s.workspace? = some dir)
      (hv : s.varsOf (s.stamped args) [] = .error (.encode t)) :
      Rejection s (.destroy args?) (.encode t)

theorem Rejection.isInit_eq {s : Service Args Output} {c : Call Args} {e : Failure}
    (h : Rejection s c e) : c.isInit = false := by
  cases h with
  | createUnready hc hw => exact Call.isInit_of_creation hc
  | _ => rfl

/-- One call: what it exchanges with terraform, its result, and the service after it. -/
inductive Step (s : Service Args Output) :
    Call Args → List Exchange → Result Output → Service Args Output → Prop
  | initialized {dir? : Option Path} {r : Reply} {o : Terraform.ProcessOutput}
      (hr : completed (.init (s.target dir?)) r = .ok o) :
      Step s (.init dir?) [⟨⟨.init, s.target dir?, initArgs⟩, r⟩] (.ok none)
        { s with dir := some (s.target dir?), phase := .initialized }
  | uninitialized {dir? : Option Path} {r : Reply} {e : Failure}
      (hr : completed (.init (s.target dir?)) r = .error e) :
      Step s (.init dir?) [⟨⟨.init, s.target dir?, initArgs⟩, r⟩] (.error e)
        { s with dir := none, phase := .uninitialized }
  | rejected {c : Call Args} {e : Failure} (h : Rejection s c e) : Step s c [] (.error e) s
  | unencodable {c : Call Args} {args : Args} {extra : List String} {dir : Path} {t : String}
      (hc : c.creation? = some (args, extra)) (hw : s.workspace? = some dir)
      (hv : s.varsOf (s.stamped args) extra = .error (.encode t)) :
      Step s c [] (.error (.encode t)) (s.remembering args)
  | applied {c : Call Args} {args : Args} {extra vars : List String} {dir : Path} {r : Reply}
      {o : Terraform.ProcessOutput} (hc : c.creation? = some (args, extra))
      (hw : s.workspace? = some dir) (hv : s.varsOf (s.stamped args) extra = .ok vars)
      (hr : completed (.apply dir) r = .ok o) :
      Step s c [⟨⟨.apply, dir, mutatingArgs vars⟩, r⟩] (.ok none)
        { s.remembering args with applied := true, phase := .created }
  | unapplied {c : Call Args} {args : Args} {extra vars : List String} {dir : Path} {r : Reply}
      {e : Failure} (hc : c.creation? = some (args, extra)) (hw : s.workspace? = some dir)
      (hv : s.varsOf (s.stamped args) extra = .ok vars)
      (hr : completed (.apply dir) r = .error e) :
      Step s c [⟨⟨.apply, dir, mutatingArgs vars⟩, r⟩] (.error e) (s.remembering args).withdrawn
  | read {dir : Path} {r : Reply} {say : Wording} {o : Outputs} (hw : s.workspace? = some dir)
      (ha : s.applied = true) (hr : outputsOf say dir r = .ok o) :
      Step s .output [⟨⟨.output, dir, queryArgs⟩, r⟩] (.ok (some (s.kind.project o))) s
  | unread {dir : Path} {r : Reply} {say : Wording} {e : Failure} (hw : s.workspace? = some dir)
      (ha : s.applied = true) (hr : outputsOf say dir r = .error e) :
      Step s .output [⟨⟨.output, dir, queryArgs⟩, r⟩] (.error e) s
  | destroyed {args? : Option Args} {args : Args} {vars : List String} {dir : Path} {r : Reply}
      {o : Terraform.ProcessOutput} (ha : args?.or s.remembered = some args)
      (hw : s.workspace? = some dir) (hv : s.varsOf (s.stamped args) [] = .ok vars)
      (hr : completed (.destroy dir) r = .ok o) :
      Step s (.destroy args?) [⟨⟨.destroy, dir, mutatingArgs vars⟩, r⟩] (.ok none)
        { s with phase := .destroyed }
  | undestroyed {args? : Option Args} {args : Args} {vars : List String} {dir : Path} {r : Reply}
      {e : Failure} (ha : args?.or s.remembered = some args) (hw : s.workspace? = some dir)
      (hv : s.varsOf (s.stamped args) [] = .ok vars)
      (hr : completed (.destroy dir) r = .error e) :
      Step s (.destroy args?) [⟨⟨.destroy, dir, mutatingArgs vars⟩, r⟩] (.error e) s

variable {say : Terraform.Subcommand → Wording}

theorem ensures_init (s : Service Args Output) (dir? : Option Path) :
    (s.perform (.init dir?)).Ensures say fun es o => Step s (.init dir?) es o.1 o.2 := by
  simp only [perform, init, Dialogue.bind_eq, Dialogue.pure_eq, Session.ensures_bind,
    Session.ensures_log, Terraform.ensures_init, List.nil_append]
  intro r
  cases hr : completed (.init (s.target dir?)) r with
  | ok o =>
    rw [target] at hr
    simp only [hr, Session.ensures_done]
    exact .initialized hr
  | error e =>
    rw [target] at hr
    simp only [hr, Session.ensures_done]
    exact .uninitialized hr

@[simp] theorem ensures_finishCreate_ok (s : Service Args Output) (o : Terraform.ProcessOutput)
    (P : List Exchange → Outcome Args Output Unit → Prop) :
    (s.finishCreate (.ok o)).Ensures say P ↔
      P [] (.ok (), { s with applied := true, phase := .created }) := Iff.rfl

@[simp] theorem ensures_finishCreate_error (s : Service Args Output) (e : Failure)
    (P : List Exchange → Outcome Args Output Unit → Prop) :
    (s.finishCreate (.error e)).Ensures say P ↔ P [] (.error e, s.withdrawn) := Iff.rfl

theorem ensures_create (s : Service Args Output) {c : Call Args} {args : Args}
    {extra : List String} (hc : c.creation? = some (args, extra)) :
    (s.create args extra).Ensures say fun es o => Step s c es o.silent.1 o.silent.2 := by
  simp only [create, createWith, initializedDir_eq, Dialogue.bind_eq, Dialogue.pure_eq]
  cases hw : s.workspace? with
  | none => exact .rejected (.createUnready hc hw)
  | some dir =>
    simp only [Option.elim, Session.ensures_bind, Session.ensures_log, rememberedVars]
    cases hv : s.varsOf (s.stamped args) extra with
    | error e =>
      obtain ⟨t, rfl⟩ := varsOf_error hv
      -- what is remembered meanwhile has no part in the flags
      have hv' : (s.remembering args).varsOf (s.stamped args) extra = .error (.encode t) := hv
      rw [remembering, stamped] at hv'
      simp only [hv']
      exact .unencodable hc hw hv
    | ok vars =>
      have hv' : (s.remembering args).varsOf (s.stamped args) extra = .ok vars := hv
      rw [remembering, stamped] at hv'
      simp only [hv', Session.ensures_bind, Terraform.ensures_apply]
      intro r
      cases hr : completed (.apply dir) r with
      | ok o => exact .applied hc hw hv hr
      | error e => exact .unapplied hc hw hv hr

theorem ensures_output_ready {s : Service Args Output} {dir : Path} (hw : s.workspace? = some dir)
    (ha : s.applied = true) (P : List Exchange → Outcome Args Output Output → Prop) :
    s.output.Ensures say P ↔ ∀ r, P [⟨⟨.output, dir, queryArgs⟩, r⟩]
      ((outputsOf (say .output) dir r).map s.kind.project, s) := by
  simp only [output, initializedDir_eq, hw, ha, Option.elim, Bool.not_true, Bool.false_eq_true,
    if_false, Dialogue.bind_eq, Dialogue.pure_eq, Session.ensures_bind, Terraform.ensures_output]
  refine forall_congr' fun r => ?_
  cases outputsOf (say .output) dir r with
  | error e => exact Iff.rfl
  | ok o => exact Iff.rfl

theorem ensures_output (s : Service Args Output) :
    (s.perform .output).Ensures say fun es o => Step s .output es o.1 o.2 := by
  simp only [perform, Dialogue.bind_eq, Dialogue.pure_eq, Session.ensures_bind,
    Session.ensures_done, List.append_nil]
  cases hw : s.workspace? with
  | none =>
    simp only [output, initializedDir_eq, hw]
    exact .rejected (.outputUnready hw)
  | some dir =>
    cases ha : s.applied with
    | false =>
      simp only [output, initializedDir_eq, hw, ha]
      exact .rejected (.outputUnapplied hw ha)
    | true =>
      rw [ensures_output_ready hw ha]
      intro r
      cases hr : outputsOf (say .output) dir r with
      | error e => exact .unread hw ha hr
      | ok o => exact .read hw ha hr

theorem ensures_destroy (s : Service Args Output) (args? : Option Args) :
    (s.perform (.destroy args?)).Ensures say fun es o => Step s (.destroy args?) es o.1 o.2 := by
  simp only [perform, destroy, initializedDir_eq, Dialogue.bind_eq, Dialogue.pure_eq,
    Session.ensures_bind]
  cases ha : args?.or s.remembered with
  | none =>
    obtain ⟨rfl, hr⟩ := Option.or_eq_none_iff.mp ha
    exact .rejected (.destroyUnset hr)
  | some args =>
    cases hw : s.workspace? with
    | none => exact .rejected (.destroyUnready ha hw)
    | some dir =>
      cases hv : s.varsOf (s.stamped args) [] with
      | error e =>
        obtain ⟨t, rfl⟩ := varsOf_error hv
        rw [stamped] at hv
        simp only [Option.elim, hv]
        exact .rejected (.destroyUnencodable ha hw hv)
      | ok vars =>
        rw [stamped] at hv
        simp only [Option.elim, hv, Session.ensures_bind, Session.ensures_log,
          Terraform.ensures_destroy]
        intro r
        cases hr : completed (.destroy dir) r with
        | error e => exact .undestroyed ha hw hv hr
        | ok o => exact .destroyed ha hw hv hr

theorem ensures_destroy_call (s : Service Args Output) (args? : Option Args) :
    (s.destroy args?).Ensures say fun es o => Step s (.destroy args?) es o.silent.1 o.silent.2 := by
  have h : (s.perform (.destroy args?)).Ensures say _ := ensures_destroy s args?
  simpa only [perform, Dialogue.bind_eq, Dialogue.pure_eq, Session.ensures_bind,
    Session.ensures_done, List.append_nil] using h

/-- Whatever terraform replies, a call ends in one of the ways that `Step` lists. -/
theorem ensures_perform (s : Service Args Output) (c : Call Args) :
    (s.perform c).Ensures say fun es o => Step s c es o.1 o.2 := by
  cases c with
  | init dir? => exact ensures_init s dir?
  | create args extra =>
    simp only [perform, Dialogue.bind_eq, Dialogue.pure_eq, Session.ensures_bind,
      Session.ensures_done, List.append_nil]
    exact ensures_create s (c := .create args extra) rfl
  | createWithFiles args files =>
    simp only [perform, createWithFiles_eq_create, Dialogue.bind_eq, Dialogue.pure_eq,
      Session.ensures_bind, Session.ensures_done, List.append_nil]
    exact ensures_create s (c := .createWithFiles args files) rfl
  | output => exact ensures_output s
  | destroy args? => exact ensures_destroy s args?

end Provision.Service
