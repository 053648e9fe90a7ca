import Provision.CommandLine.Program
import Provision.Proofs.Lifecycle.Flags
import Provision.Proofs.Lifecycle.Requests

/-!
The steps of the command line and what they run. A step goes through its subcommands in order, in
one directory, and turns to the next one only when the one before succeeded. `Follows` describes
that for any way terraform may reply; what a command leaves behind is read off from it.
-/

set_option autoImplicit false

namespace Provision.CommandLine

open Terraform (Context Exchange Executor Invocation Reply Session Subcommand completed outputsOf
  stateOf initArgs mutatingArgs queryArgs)

/-- An invocation that runs a subcommand in a directory; an apply has the flags at its end. -/
structure Fits (dir : Path) (flags : List String) (sub : Subcommand) (i : Invocation) : Prop where
  subcommand_eq : i.subcommand = sub
  workspace_eq : i.workspace = dir
  flags_suffix : sub = .apply → flags <:+ i.args

theorem Fits.of_ne {dir : Path} {flags args : List String} {sub : Subcommand} (h : sub ≠ .apply) :
    Fits dir flags sub ⟨sub, dir, args⟩ := ⟨rfl, rfl, fun hs => absurd hs h⟩

/-- The subcommands run one after the other. Only the last one decides how the step ends, unless an
earlier one, or what comes between, ends it in a report. -/
inductive Follows (dir : Path) (flags : List String) (finish : Reply → StepResult) :
    List Subcommand → List Exchange → StepResult → Prop
  | last {sub : Subcommand} {q : Exchange} (fits : Fits dir flags sub q.invocation) :
    Follows dir flags finish [sub] [q] (finish q.reply)
  | halted {sub next : Subcommand} {plan : List Subcommand} {q : Exchange}
    (fits : Fits dir flags sub q.invocation) (report : Report) :
    Follows dir flags finish (sub :: next :: plan) [q] (.error report)
  | next {sub : Subcommand} {plan : List Subcommand} {q : Exchange} {es : List Exchange}
    {r : StepResult} (fits : Fits dir flags sub q.invocation) (granted : q.Granted)
    (rest : Follows dir flags finish plan es r) : Follows dir flags finish (sub :: plan) (q :: es) r

namespace Follows

variable {dir : Path} {flags : List String} {finish : Reply → StepResult} {plan : List Subcommand}
  {es : List Exchange} {r : StepResult}

theorem last_of_eq {sub : Subcommand} {q : Exchange} (fits : Fits dir flags sub q.invocation)
    (h : finish q.reply = r) : Follows dir flags finish [sub] [q] r := h ▸ .last fits

theorem halted_failing {sub next : Subcommand} {q : Exchange}
    (fits : Fits dir flags sub q.invocation) (headline : String) (e : Failure) :
    Follows dir flags finish (sub :: next :: plan) [q] (failing headline e) := .halted fits _

theorem ne_nil (h : Follows dir flags finish plan es r) : es ≠ [] := by
  cases h <;> exact List.cons_ne_nil _ _

theorem fits (h : Follows dir flags finish plan es r) :
    ∀ q ∈ es, ∃ sub, Fits dir flags sub q.invocation := by
  induction h with
  | last fits => simpa using ⟨_, fits⟩
  | halted fits report => simpa using ⟨_, fits⟩
  | next fits granted rest ih => exact List.forall_mem_cons.mpr ⟨⟨_, fits⟩, ih⟩

theorem granted (h : Follows dir flags finish plan es r) : ∀ q ∈ es.dropLast, q.Granted := by
  induction h with
  | last fits => simp
  | halted fits report => simp
  | next fits granted rest ih =>
    rw [List.dropLast_cons_of_ne_nil rest.ne_nil]
    exact List.forall_mem_cons.mpr ⟨granted, ih⟩

end Follows

def concluded {α : Type} (headline : String) (outcome : Except Failure α)
    (result : α → StepResult) : StepResult :=
  match outcome with
  | .error e => failing headline e
  | .ok a => result a

namespace Step

def plan : Step → List Subcommand
  | .init => [.init]
  | .apply .. => [.init, .apply, .output]
  | .output => [.output]
  | .destroy _ => [.init, .destroy]
  | .show _ => [.show]

def file? : Step → Option Path
  | .apply file _ _ | .destroy file => file
  | .init | .output | .show _ => none

def flags : Step → List String
  | .apply _ varFiles extra => extra ++ Variables.encodeFiles varFiles
  | .init | .output | .destroy _ | .show _ => []

def Unusable (Args : Type) [Decode Args] (x : Surroundings) (step : Step) : Prop :=
  ∃ p, step.file? = some p ∧
    ∀ raw, x.fileAt p = .ok raw → ((Json.readWritten raw).bind decode : Option Args) = none

variable {Args Output : Type} [Encode Output]

def finish (kind : ResourceKind Args Output) (dir : Path) (say : Subcommand → Wording) :
    Step → Reply → StepResult
  | .init, r => concluded ("Failed to initialise " ++ kind.name) (completed (.init dir) r)
      fun _ => .ok none
  | .apply .., r | .output, r => concluded ("Failed to read " ++ kind.name ++ " outputs")
      (outputsOf (say .output) dir r) fun o => .ok (some (encode (kind.project o)))
  | .destroy _, r => concluded ("Failed to destroy " ++ kind.name) (completed (.destroy dir) r)
      fun _ => .ok none
  | .show resource, r => concluded ("Failed to read " ++ kind.name ++ " state")
      (stateOf (say .show) dir r) fun s => select s resource

end Step

section Calls

variable {Args Output : Type} {s : Service Args Output} {dir : Path}
  {say : Subcommand → Wording} {P : List Exchange → StepResult → Prop}

theorem ensures_init_bind {f : Service.Outcome Args Output Unit → Session StepResult}
    (failed : ∀ r e s', completed (.init dir) r = .error e →
      (f (.error e, s')).Ensures say fun es v => P (⟨⟨.init, dir, initArgs⟩, r⟩ :: es) v)
    (ready : ∀ r out, completed (.init dir) r = .ok out →
      (f (.ok (), { s with dir := some dir, phase := .initialized })).Ensures say fun es v =>
        P (⟨⟨.init, dir, initArgs⟩, r⟩ :: es) v) :
    Session.Ensures say ((s.init (some dir)).bind f) P := by
  simp only [Service.init, Dialogue.bind_eq, Dialogue.pure_eq, Session.ensures_bind,
    Session.ensures_log, Terraform.ensures_init, List.nil_append, Option.getD_some]
  intro r
  cases hr : completed (.init dir) r with
  | error e => exact failed r e _ hr
  | ok out => exact ready r out hr

theorem fits_apply {args : Args} {extra vars : List String}
    (hv : s.varsOf args extra = .ok vars) :
    Fits dir extra .apply ⟨.apply, dir, mutatingArgs vars⟩ := by
  refine ⟨rfl, rfl, fun _ => ?_⟩
  obtain ⟨own, -, rfl⟩ := Service.varsOf_eq_ok_iff.mp hv
  simp only [mutatingArgs, ← List.append_assoc]
  exact List.suffix_append _ extra

theorem ensures_create_bind (hw : s.workspace? = some dir) (args : Args) (extra : List String)
    {f : Service.Outcome Args Output Unit → Session StepResult}
    (refused : ∀ e s', (f (.error e, s')).Ensures say P)
    (failed : ∀ q e s', Fits dir extra .apply q.invocation →
      (f (.error e, s')).Ensures say fun es v => P (q :: es) v)
    (created : ∀ q s', Fits dir extra .apply q.invocation → q.Granted → s'.kind = s.kind →
      s'.workspace? = some dir → s'.applied = true →
      (f (.ok (), s')).Ensures say fun es v => P (q :: es) v) :
    Session.Ensures say ((s.create args extra).bind f) P := by
  rw [Session.ensures_bind]
  refine (Service.ensures_create s (c := .create args extra) rfl).imp ?_
  rintro es ⟨done, s'⟩ hs
  cases done with
  | error e =>
    have hs : Service.Step s (.create args extra) es (.error e) s' := hs
    cases hs with
    | rejected hj => exact refused e s
    | unencodable hc _ _ => exact refused _ _
    | unapplied hc hw' hv hr =>
      cases hc
      cases hw.symm.trans hw'
      exact failed _ e _ (fits_apply hv)
  | ok u =>
    have hs : Service.Step s (.create args extra) es (.ok none) s' := hs
    cases hs with
    | applied hc hw' hv hr =>
      cases hc
      cases hw.symm.trans hw'
      have hd : s.dir = some dir := (Service.workspace?_eq_some_iff.mp hw).2
      exact created _ _ (fits_apply hv) (Exchange.granted_of_completed hr) rfl
        (Service.workspace?_eq_some_iff.mpr ⟨by simp, hd⟩) rfl

theorem ensures_output_bind (hw : s.workspace? = some dir) (ha : s.applied = true)
    {f : Service.Outcome Args Output Output → Session StepResult}
    (read : ∀ r, (f ((outputsOf (say .output) dir r).map s.kind.project, s)).Ensures say
      fun es v => P (⟨⟨.output, dir, queryArgs⟩, r⟩ :: es) v) :
    Session.Ensures say (s.output.bind f) P := by
  rw [Session.ensures_bind, Service.ensures_output_ready hw ha]
  exact read

theorem ensures_destroy_bind (hw : s.workspace? = some dir) (args? : Option Args)
    {f : Service.Outcome Args Output Unit → Session StepResult}
    (refused : ∀ e s', (f (.error e, s')).Ensures say P)
    (failed : ∀ q e s', Fits dir [] .destroy q.invocation →
      completed (.destroy dir) q.reply = .error e →
      (f (.error e, s')).Ensures say fun es v => P (q :: es) v)
    (destroyed : ∀ q out s', Fits dir [] .destroy q.invocation →
      completed (.destroy dir) q.reply = .ok out →
      (f (.ok (), s')).Ensures say fun es v => P (q :: es) v) :
    Session.Ensures say ((s.destroy args?).bind f) P := by
  rw [Session.ensures_bind]
  refine (Service.ensures_destroy_call s args?).imp ?_
  rintro es ⟨done, s'⟩ hs
  cases done with
  | error e =>
    have hs : Service.Step s (.destroy args?) es (.error e) s' := hs
    cases hs with
    | rejected hj => exact refused e s
    | unencodable hc _ _ => cases hc
    | unapplied hc _ _ _ => cases hc
    | undestroyed ha hw' hv hr =>
      cases hw.symm.trans hw'
      exact failed _ e _ (.of_ne (by decide)) hr
  | ok u =>
    have hs : Service.Step s (.destroy args?) es (.ok none) s' := hs
    cases hs with
    | applied hc _ _ _ => cases hc
    | destroyed ha hw' hv hr =>
      cases hw.symm.trans hw'
      exact destroyed _ _ _ (.of_ne (by decide)) hr

end Calls

section Sessions

variable {Args Output : Type} [Encode Output] {x : Surroundings} {kind : ResourceKind Args Output}
  {dir : Path} {say : Subcommand → Wording}

theorem ensures_runInit : (runInit x kind dir).Ensures say
    (Follows dir [] (Step.init.finish kind dir say) Step.init.plan) := by
  refine ensures_init_bind (fun r e s' hr => ?_) fun r out hr => ?_
  · exact Follows.last_of_eq (.of_ne (by decide)) (by simp only [Step.finish, concluded, hr])
  · exact Follows.last_of_eq (.of_ne (by decide)) (by simp only [Step.finish, concluded, hr])

theorem ensures_runOutput : (runOutput x kind dir).Ensures say
    (Follows dir [] (Step.output.finish kind dir say) Step.output.plan) := by
  simp only [runOutput, Dialogue.bind_eq, Dialogue.pure_eq, Session.ensures_bind,
    Terraform.ensures_output]
  intro r
  cases hr : outputsOf (say .output) dir r with
  | error e =>
    exact Follows.last_of_eq (.of_ne (by decide)) (by simp only [Step.finish, concluded, hr])
  | ok o => exact Follows.last_of_eq (.of_ne (by decide)) (by simp only [Step.finish, concluded, hr])

theorem ensures_runShow (resource : Option String) : (runShow x kind dir resource).Ensures say
    (Follows dir [] ((Step.show resource).finish kind dir say) (Step.show resource).plan) := by
  simp only [runShow, Dialogue.bind_eq, Dialogue.pure_eq, Session.ensures_bind,
    Terraform.ensures_show]
  intro r
  cases hr : stateOf (say .show) dir r with
  | error e =>
    exact Follows.last_of_eq (.of_ne (by decide)) (by simp only [Step.finish, concluded, hr])
  | ok s => exact Follows.last_of_eq (.of_ne (by decide)) (by simp only [Step.finish, concluded, hr])

theorem ensures_runDestroy (file : Option Path) (args? : Option Args) :
    (runDestroy x kind dir args?).Ensures say
      (Follows dir [] ((Step.destroy file).finish kind dir say) (Step.destroy file).plan) := by
  have hi : Fits dir [] .init ⟨.init, dir, initArgs⟩ := .of_ne (by decide)
  refine ensures_init_bind (fun r e s' hr => Follows.halted_failing hi _ e) fun r out hr => ?_
  have hg : Exchange.Granted ⟨⟨.init, dir, initArgs⟩, r⟩ := Exchange.granted_of_completed hr
  refine ensures_destroy_bind rfl args? (fun e s' => Follows.halted_failing hi _ e)
    (fun q e s' hq hd => ?_) fun q out s' hq hd => ?_
  · exact Follows.next hi hg (.last_of_eq hq (by simp only [Step.finish, concluded, hd]))
  · exact Follows.next hi hg (.last_of_eq hq (by simp only [Step.finish, concluded, hd]))

theorem ensures_runApply (file : Option Path) (varFiles : List Path) (extra : List String)
    (args : Args) : (runApply x kind dir args (extra ++ Variables.encodeFiles varFiles)).Ensures say
      (Follows dir (extra ++ Variables.encodeFiles varFiles)
        ((Step.apply file varFiles extra).finish kind dir say)
        (Step.apply file varFiles extra).plan) := by
  have hi : Fits dir (extra ++ Variables.encodeFiles varFiles) .init ⟨.init, dir, initArgs⟩ :=
    .of_ne (by decide)
  refine ensures_init_bind (fun r e s' hr => Follows.halted_failing hi _ e) fun r out hr => ?_
  have hg : Exchange.Granted ⟨⟨.init, dir, initArgs⟩, r⟩ := Exchange.granted_of_completed hr
  refine ensures_create_bind rfl args _ (fun e s' => Follows.halted_failing hi _ e)
    (fun q e s' hq => Follows.next hi hg (.halted_failing hq _ e)) fun q s' hq hg' hk hw ha => ?_
  have hk : s'.kind = kind := hk
  refine ensures_output_bind hw ha fun r' => ?_
  rw [hk]
  cases ho : outputsOf (say .output) dir r' with
  | error e =>
    exact Follows.next hi hg (.next hq hg'
      (.last_of_eq (.of_ne (by decide)) (by simp only [Step.finish, concluded, ho])))
  | ok o =>
    exact Follows.next hi hg (.next hq hg'
      (.last_of_eq (.of_ne (by decide)) (by simp only [Step.finish, concluded, ho])))

theorem loadArgs_eq_error_iff (Args : Type) [Decode Args] (x : Surroundings) (step : Step) :
    (∃ r, (loadArgs x step.file? : Except Report (Option Args)) = .error r) ↔
      step.Unusable Args x := by
  constructor
  · rintro ⟨r, hr⟩
    cases hf : step.file? with
    | none =>
      rw [hf] at hr
      cases hr
    | some p =>
      refine ⟨p, hf, fun raw hraw => ?_⟩
      rw [hf] at hr
      simp only [loadArgs, hraw] at hr
      split at hr
      · cases hr
      · assumption
  · rintro ⟨p, hp, hn⟩
    rw [hp]
    cases hf : x.fileAt p with
    | error e => exact ⟨_, by simp only [loadArgs, hf]; rfl⟩
    | ok raw => exact ⟨_, by simp only [loadArgs, hf, hn raw hf]; rfl⟩

/-- An unusable file ends a step before terraform runs; any other step goes through its plan. -/
inductive Step.Ran [Decode Args] (x : Surroundings) (kind : ResourceKind Args Output) (dir : Path)
    (say : Subcommand → Wording) (step : Step) : List Exchange → StepResult → Prop
  | refused (unusable : step.Unusable Args x) (report : Report) :
    Ran x kind dir say step [] (.error report)
  | followed {es : List Exchange} {r : StepResult} (usable : ¬ step.Unusable Args x)
    (follows : Follows dir step.flags (step.finish kind dir say) step.plan es r) :
    Ran x kind dir say step es r

theorem Step.ensures_run [Record Args] (dir? : Option Path) (step : Step) :
    (step.run x kind dir?).Ensures say
      (step.Ran x kind (dir?.getD (kind.defaultDir x.settings)) say) := by
  have hu := loadArgs_eq_error_iff Args x step
  cases step with
  | init => exact ensures_runInit.imp fun es r h => .followed (by simp [Step.Unusable, Step.file?]) h
  | output =>
    exact ensures_runOutput.imp fun es r h => .followed (by simp [Step.Unusable, Step.file?]) h
  | «show» resource =>
    exact (ensures_runShow resource).imp fun es r h =>
      .followed (by simp [Step.Unusable, Step.file?]) h
  | apply file varFiles extra =>
    simp only [Step.run]
    cases hl : (loadArgs x file : Except Report (Option Args)) with
    | error report => exact .refused (hu.mp ⟨_, hl⟩) report
    | ok args =>
      refine (ensures_runApply file varFiles extra _).imp fun es r h => .followed ?_ h
      intro hx
      obtain ⟨r, hr⟩ := hu.mpr hx
      cases hl.symm.trans hr
  | destroy file =>
    simp only [Step.run]
    cases hl : (loadArgs x file : Except Report (Option Args)) with
    | error report => exact .refused (hu.mp ⟨_, hl⟩) report
    | ok args =>
      refine (ensures_runDestroy file args).imp fun es r h => .followed ?_ h
      intro hx
      obtain ⟨r, hr⟩ := hu.mpr hx
      cases hl.symm.trans hr

end Sessions

namespace Step.Ran

variable {Args Output : Type} [Encode Output] [Decode Args] {x : Surroundings}
  {kind : ResourceKind Args Output} {dir : Path} {say : Subcommand → Wording} {step : Step}
  {es : List Exchange} {r : StepResult}

theorem fits (h : step.Ran x kind dir say es r) :
    ∀ q ∈ es, ∃ sub, Fits dir step.flags sub q.invocation := by
  cases h with
  | refused unusable report => simp
  | followed usable follows => exact follows.fits

theorem granted (h : step.Ran x kind dir say es r) : ∀ q ∈ es.dropLast, q.Granted := by
  cases h with
  | refused unusable report => simp
  | followed usable follows => exact follows.granted

theorem eq_nil_iff (h : step.Ran x kind dir say es r) : es = [] ↔ step.Unusable Args x := by
  cases h with
  | refused unusable report => exact iff_of_true rfl unusable
  | followed usable follows => exact iff_of_false follows.ne_nil usable

end Step.Ran

namespace Command

def directory (c : Command) (x : Surroundings) : Path :=
  c.dir.getD <| match c.kind with
    | .cluster => ResourceKind.cluster.defaultDir x.settings
    | .machinePool => ResourceKind.machinePool.defaultDir x.settings
    | .identityProvider t => (ResourceKind.identityProvider t).defaultDir x.settings
    | .cloudProviders => ResourceKind.cloudProviders.defaultDir x.settings

def Unusable (c : Command) (x : Surroundings) : Prop :=
  match c.kind with
  | .cluster => c.step.Unusable ClusterArgs x
  | .machinePool => c.step.Unusable MachinePoolArgs x
  | .identityProvider _ => c.step.Unusable IdpArgs x
  | .cloudProviders => c.step.Unusable CloudProvidersArgs x

end Command

end Provision.CommandLine
