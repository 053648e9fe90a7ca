import Provision.Proofs.CommandLine.Steps

/-!
Commands whose argument record is no good. The file is read, its text is taken for JSON, and the
document for a record of the kind, all before terraform runs. A destroy without a file is not
refused there but by the service, and by then the directory has been prepared.
-/

set_option autoImplicit false

namespace Provision.CommandLine

open Terraform (Exchange Executor Reply Session Script completed initArgs)

inductive Defect where
  | unreadable (file : Path) (fault : Fault)
  | notJson (file : Path) (text : String)
  | mismatched (file : Path) (text : String)
  | missing
deriving DecidableEq

/-- What is reported of a file. No file is read for a record that is missing. -/
def Defect.report? (say : Wording) : Defect → Option Report
  | .unreadable p fault => some ⟨"Failed to read arguments from " ++ p.quoted, some fault.message⟩
  | .notJson p text | .mismatched p text =>
    some ⟨"Invalid argument record in " ++ p.quoted, some (say text)⟩
  | .missing => none

theorem Defect.report?_eq_none_iff {say : Wording} {d : Defect} :
    d.report? say = none ↔ d = .missing := by
  cases d <;> simp [report?]

def Surroundings.defectIn? (Args : Type) [Decode Args] (x : Surroundings) (p : Path) :
    Option Defect :=
  match x.fileAt p with
  | .error fault => some (.unreadable p fault)
  | .ok raw =>
    match Json.readWritten raw with
    | none => some (.notJson p raw)
    | some w => if (decode w : Option Args).isSome then none else some (.mismatched p raw)

/-- An apply without a file takes the empty record, a destroy without one has none. -/
def Step.defect? (Args : Type) [Decode Args] (x : Surroundings) : Step → Option Defect
  | .apply (some p) _ _ | .destroy (some p) => x.defectIn? Args p
  | .destroy none => some .missing
  | .apply none _ _ | .init | .output | .show _ => none

def Command.defect? (c : Command) (x : Surroundings) : Option Defect :=
  match c.kind with
  | .cluster => c.step.defect? ClusterArgs x
  | .machinePool => c.step.defect? MachinePoolArgs x
  | .identityProvider _ => c.step.defect? IdpArgs x
  | .cloudProviders => c.step.defect? CloudProvidersArgs x

def KindName.reported : KindName → String
  | .cluster => ResourceKind.cluster.name
  | .machinePool => ResourceKind.machinePool.name
  | .identityProvider t => (ResourceKind.identityProvider t).name
  | .cloudProviders => ResourceKind.cloudProviders.name

/-- How a destroy ends that has no record, after terraform replied to the init before it. -/
def withoutRecord (dir : Path) (name : String) (r : Reply) : StepResult :=
  match completed (.init dir) r with
  | .error e => failing ("Failed to initialise " ++ name) e
  | .ok _ => failing ("Failed to destroy " ++ name)
      (.contractViolation "got unset destroy args, set it in object or pass as a parameter")

theorem exists_withoutRecord_eq (dir : Path) (name : String) (r : Reply) :
    ∃ report, withoutRecord dir name r = .error report := by
  unfold withoutRecord
  split
  · exact ⟨_, rfl⟩
  · exact ⟨_, rfl⟩

section Steps

variable {Args Output : Type} {x : Surroundings}

theorem loadArgs_some (Args : Type) [Decode Args] (x : Surroundings) (p : Path) :
    match x.defectIn? Args p with
    | some d => ∃ report, d.report? x.say = some report ∧
        (loadArgs x (some p) : Except Report (Option Args)) = .error report
    | none => ∃ args, (loadArgs x (some p) : Except Report (Option Args)) = .ok (some args) := by
  simp only [Surroundings.defectIn?, loadArgs]
  cases x.fileAt p with
  | error fault => exact ⟨_, rfl, rfl⟩
  | ok raw =>
    cases hw : Json.readWritten raw with
    | none => simp [hw, Defect.report?]
    | some w =>
      cases hd : (decode w : Option Args) with
      | none => simp [hw, hd, Defect.report?]
      | some args => simp [hw, hd]

theorem exists_report_of_defectIn? [Decode Args] {p : Path} {d : Defect}
    (h : x.defectIn? Args p = some d) : ∃ report, d.report? x.say = some report ∧
      (loadArgs x (some p) : Except Report (Option Args)) = .error report := by
  have hl := loadArgs_some Args x p
  rwa [h] at hl

theorem exists_defectIn?_of_loadArgs [Decode Args] {p : Path} {report : Report}
    (h : (loadArgs x (some p) : Except Report (Option Args)) = .error report) :
    ∃ d, x.defectIn? Args p = some d := by
  have hl := loadArgs_some Args x p
  cases hd : x.defectIn? Args p with
  | some d => exact ⟨d, rfl⟩
  | none =>
    rw [hd] at hl
    obtain ⟨args, hl⟩ := hl
    cases h.symm.trans hl

theorem defectIn?_ne_missing [Decode Args] {p : Path} {d : Defect}
    (h : x.defectIn? Args p = some d) : d ≠ .missing := by
  obtain ⟨report, hr, -⟩ := exists_report_of_defectIn? h
  rintro rfl
  cases hr

theorem Step.defect?_eq_some_iff [Decode Args] {step : Step} {d : Defect} :
    step.defect? Args x = some d ↔
      (∃ p, step.file? = some p ∧ x.defectIn? Args p = some d) ∨
        step = .destroy none ∧ d = .missing := by
  cases step with
  | apply file varFiles extra => cases file <;> simp [defect?, file?]
  | destroy file => cases file <;> simp [defect?, file?, eq_comm]
  | _ => simp [defect?, file?]

theorem unusable_iff_defect [Decode Args] {step : Step} :
    step.Unusable Args x ↔ ∃ d, step.defect? Args x = some d ∧ d ≠ .missing := by
  rw [← loadArgs_eq_error_iff Args x step]
  constructor
  · rintro ⟨report, hl⟩
    cases hf : step.file? with
    | none =>
      rw [hf] at hl
      cases hl
    | some p =>
      rw [hf] at hl
      obtain ⟨d, hd⟩ := exists_defectIn?_of_loadArgs hl
      exact ⟨d, Step.defect?_eq_some_iff.mpr (.inl ⟨p, hf, hd⟩), defectIn?_ne_missing hd⟩
  · rintro ⟨d, hd, hm⟩
    rcases Step.defect?_eq_some_iff.mp hd with ⟨p, hf, hp⟩ | ⟨-, hd⟩
    · obtain ⟨report, -, hl⟩ := exists_report_of_defectIn? hp
      exact ⟨report, hf ▸ hl⟩
    · exact absurd hd hm

variable {kind : ResourceKind Args Output} {say : Terraform.Subcommand → Wording}

/-- The init is asked for, whether or not it succeeds; the destroy is not. -/
theorem ensures_runDestroy_none (dir : Path) : (runDestroy x kind dir none).Ensures say fun es v =>
    ∃ r, es = [⟨⟨.init, dir, initArgs⟩, r⟩] ∧ v = withoutRecord dir kind.name r := by
  refine ensures_init_bind (fun r e s' hr => ?_) fun r out hr => ?_
  · exact ⟨r, rfl, by simp only [withoutRecord, hr]⟩
  · -- a new service remembers nothing
    exact ⟨r, rfl, by simp only [withoutRecord, hr]⟩

variable [Record Args] [Encode Output]

theorem Step.run_of_loadArgs {step : Step} (dir? : Option Path) {report : Report}
    (h : (loadArgs x step.file? : Except Report (Option Args)) = .error report) :
    step.run x kind dir? = .done (.error report) := by
  cases step with
  | apply file varFiles extra =>
    have h : (loadArgs x file : Except Report (Option Args)) = .error report := h
    simp only [run, h, Dialogue.pure_eq]
  | destroy file =>
    have h : (loadArgs x file : Except Report (Option Args)) = .error report := h
    simp only [run, h, Dialogue.pure_eq]
  | _ => cases h

theorem Step.run_of_defect {step : Step} (dir? : Option Path) {d : Defect} {report : Report}
    (hd : step.defect? Args x = some d) (hr : d.report? x.say = some report) :
    step.run x kind dir? = .done (.error report) := by
  rcases Step.defect?_eq_some_iff.mp hd with ⟨p, hf, hp⟩ | ⟨-, rfl⟩
  · obtain ⟨report', hr', hl⟩ := exists_report_of_defectIn? hp
    cases hr.symm.trans hr'
    exact Step.run_of_loadArgs dir? (hf ▸ hl)
  · cases hr

theorem Step.ensures_run_of_missing {step : Step} (dir? : Option Path)
    (hd : step.defect? Args x = some .missing) : (step.run x kind dir?).Ensures say fun es v =>
      ∃ r, es = [⟨⟨.init, dir?.getD (kind.defaultDir x.settings), initArgs⟩, r⟩] ∧
        v = withoutRecord (dir?.getD (kind.defaultDir x.settings)) kind.name r := by
  rcases Step.defect?_eq_some_iff.mp hd with ⟨p, -, hp⟩ | ⟨rfl, -⟩
  · exact absurd rfl (defectIn?_ne_missing hp)
  · exact ensures_runDestroy_none _

theorem Step.refused (x : Surroundings) (kind : ResourceKind Args Output) (step : Step)
    (dir? : Option Path) {σ : Type} (y : Executor σ) (w : σ) :
    let dir := dir?.getD (kind.defaultDir x.settings)
    let v := y.converse (step.run x kind dir?) w
    (v.exchanges = [] ↔ ∃ d, step.defect? Args x = some d ∧ d ≠ .missing) ∧
    ∀ d, step.defect? Args x = some d →
      (∃ report, v.result = .error report) ∧
      (d = .missing → ∃ r, v.exchanges = [⟨⟨.init, dir, initArgs⟩, r⟩] ∧
        v.result = withoutRecord dir kind.name r) := by
  intro dir v
  have hran : step.Ran x kind dir y.wording v.exchanges v.result :=
    Session.converse_of_ensures y (Step.ensures_run dir? step) w
  refine ⟨hran.eq_nil_iff.trans unusable_iff_defect, fun d hd => ?_⟩
  cases hr : d.report? x.say with
  | some report =>
    have hv : v = y.converse (.done (.error report)) w :=
      congrArg (y.converse · w) (Step.run_of_defect dir? hd hr)
    refine ⟨⟨report, by rw [hv]; rfl⟩, ?_⟩
    rintro rfl
    cases hr
  | none =>
    cases Defect.report?_eq_none_iff.mp hr
    have hm : (step.run x kind dir?).Ensures y.wording _ := Step.ensures_run_of_missing dir? hd
    obtain ⟨r, hes, hv⟩ := Session.converse_of_ensures y hm w
    obtain ⟨report, hrep⟩ := exists_withoutRecord_eq dir kind.name r
    exact ⟨⟨report, hv.trans hrep⟩, fun _ => ⟨r, hes, hv⟩⟩

end Steps

namespace Command

theorem exists_kind_defect (c : Command) (x : Surroundings) :
    ∃ (Args Output : Type) (_ : Record Args) (_ : Encode Output) (kind : ResourceKind Args Output),
      c.directory x = c.dir.getD (kind.defaultDir x.settings) ∧ c.kind.reported = kind.name ∧
      c.defect? x = c.step.defect? Args x ∧ c.session x = c.step.run x kind c.dir := by
  obtain ⟨verbose, json, kind, dir, step⟩ := c
  cases kind with
  | cluster => exact ⟨_, _, _, _, .cluster, rfl, rfl, rfl, rfl⟩
  | machinePool => exact ⟨_, _, _, _, .machinePool, rfl, rfl, rfl, rfl⟩
  | identityProvider t => exact ⟨_, _, _, _, .identityProvider t, rfl, rfl, rfl, rfl⟩
  | cloudProviders => exact ⟨_, _, _, _, .cloudProviders, rfl, rfl, rfl, rfl⟩

theorem session_of_defect {c : Command} {x : Surroundings} {d : Defect} {report : Report}
    (hd : c.defect? x = some d) (hr : d.report? x.say = some report) :
    c.session x = .done (.error report) := by
  obtain ⟨Args, Output, _, _, kind, -, -, hdef, hrun⟩ := c.exists_kind_defect x
  rw [hrun]
  exact Step.run_of_defect c.dir (hdef ▸ hd) hr

/-- A record that is no good ends a command in a report, and terraform is asked for nothing unless
the record is missing. A destroy without a file asks for an init before it is refused. -/
theorem refused_without_terraform_iff (c : Command) (x : Surroundings) {σ : Type} (y : Executor σ)
    (w : σ) :
    let v := y.converse (c.session x) w
    (v.exchanges = [] ↔ ∃ d, c.defect? x = some d ∧ d ≠ .missing) ∧
    ∀ d, c.defect? x = some d →
      (∃ report, v.result = .error report) ∧
      (∀ report, d.report? x.say = some report → c.session x = .done (.error report)) ∧
      (d = .missing → ∃ r, v.exchanges = [⟨⟨.init, c.directory x, initArgs⟩, r⟩] ∧
        v.result = withoutRecord (c.directory x) c.kind.reported r) := by
  intro v
  obtain ⟨Args, Output, _, _, kind, hdir, hname, hdef, hrun⟩ := c.exists_kind_defect x
  have hstep := Step.refused x kind c.step c.dir y w
  rw [← hrun, ← hdir, ← hname, ← hdef] at hstep
  obtain ⟨hnil, hrefused⟩ := hstep
  refine ⟨hnil, fun d hd => ?_⟩
  obtain ⟨herror, hmissing⟩ := hrefused d hd
  exact ⟨herror, fun report hr => session_of_defect hd hr, hmissing⟩

/-- A file that holds a bracket too few is refused at once. -/
theorem refused_over_unclosed_bracket :
    let c : Command := ⟨false, false, .machinePool, none, .destroy (some ⟨"mp.json"⟩)⟩
    let reason := "EOF while parsing a list at line 1 column 2"
    let x : Surroundings := ⟨{}, ⟨none, false⟩, fun _ => .ok "[1", fun _ => reason⟩
    (Script.executor.converse (c.session x) .empty).exchanges = [] ∧
      c.session x = .done (.error ⟨"Invalid argument record in \"mp.json\"", some reason⟩) := by
  intro c reason x
  have h := c.refused_without_terraform_iff x Script.executor .empty
  have hd : c.defect? x = some (.notJson ⟨"mp.json"⟩ "[1") := by decide
  exact ⟨h.1.mpr ⟨_, hd, by decide⟩, (h.2 _ hd).2.1 _ (by decide +kernel)⟩

/-- Without a file the destroy of an identity provider still has terraform prepare the directory. -/
theorem init_before_refusal :
    let c : Command := ⟨false, false, .identityProvider .github, none, .destroy none⟩
    let x : Surroundings :=
      ⟨{ manifestsDir := ⟨"m"⟩ }, ⟨none, false⟩, fun _ => .error .notFound, id⟩
    Command.parse ["destroy", "--kind", "idp-github"] = .ok c ∧
      c.defect? x = some .missing ∧
      (Script.executor.converse (c.session x) .empty).exchanges.map Exchange.invocation =
        [⟨.init, ⟨"m/idps/github"⟩, initArgs⟩] :=
  ⟨rfl, rfl, by decide +kernel⟩

end Command

/-- The whole program then asks the machine for nothing but words for the report. -/
theorem Start.run_of_defect {x : Start} {c : Command} {settings : Settings} {d : Defect}
    (hc : Command.parse x.arguments = .ok c) (hs : Settings.ofLookup x.lookup = .ok settings)
    (hd : ∀ say, c.defect? ⟨settings, settings.context, x.fileAt, say⟩ = some d)
    {report : Wording → Report} (hr : ∀ say, d.report? say = some (report say)) :
    x.run = (Machine.Work.wording "arguments").bind fun say =>
      .done { code := 1, stderr := (report say).text } := by
  have hsession (say : Wording) : c.session ⟨settings, settings.context, x.fileAt, say⟩ =
      .done (.error (report say)) := Command.session_of_defect (hd say) (hr say)
  simp only [Start.run, hc, Command.work, hs, hsession]
  rfl

end Provision.CommandLine
