import Provision.Proofs.Lifecycle.History

/-!
What a call changes. Each field of the service after a call is a function of the field before it
and of what was seen of the call.
-/

set_option autoImplicit false

namespace Provision.Service

open Terraform (Exchange)

variable {Args Output : Type} {s₀ s s' : Service Args Output} {h : List (Entry Args Output)}
  {c : Call Args} {es : List Exchange} {r : Result Output}

theorem Step.setup_eq (hs : Step s c es r s') :
    s'.kind = s.kind ∧ s'.settings = s.settings ∧ s'.context = s.context := by
  cases hs <;> simp [remembering]

theorem Step.dir_eq (hs : Step s c es r s') :
    s'.dir = if c.isInit then Entry.prepared? ⟨s, c, es, r, s'⟩ else s.dir := by
  cases hs with
  | rejected hj => simp [hj.isInit_eq]
  | unencodable hc hw hv => simp [Call.isInit_of_creation hc, remembering]
  | applied hc hw hv hr => simp [Call.isInit_of_creation hc, remembering]
  | unapplied hc hw hv hr => simp [Call.isInit_of_creation hc, remembering]
  | _ => rfl

def Entry.next (e : Entry Args Output) (p : Phase) : Phase :=
  if e.isInit then (if e.succeeded then .initialized else .uninitialized)
  else if e.applied then .created
  else if e.destroyed then .destroyed
  else if e.attempted ∧ p = .created then .initialized
  else p

theorem Step.phase_eq (hs : Step s c es r s') :
    s'.phase = Entry.next ⟨s, c, es, r, s'⟩ s.phase := by
  cases hs with
  | rejected hj => simp [Entry.next, hj.isInit_eq]
  | unencodable hc hw hv => simp [Entry.next, Call.isInit_of_creation hc, remembering]
  | applied hc hw hv hr =>
    simp [Entry.next, Call.isInit_of_creation hc, Call.isCreate_of_creation hc]
  | unapplied hc hw hv hr =>
    simp [Entry.next, Call.isInit_of_creation hc, Call.isCreate_of_creation hc, withdrawn_phase,
      remembering]
  | _ => rfl

/-- A success counts until an apply fails over what it created. -/
theorem Step.applied_eq (hs : Step s c es r s') :
    s'.applied = (Entry.applied ⟨s, c, es, r, s'⟩ ||
      !Entry.lost ⟨s, c, es, r, s'⟩ && s.applied) := by
  cases hs with
  | applied hc hw hv hr => simp [Call.isCreate_of_creation hc]
  | unapplied hc hw hv hr =>
    simp [Call.isCreate_of_creation hc, withdrawn_applied, remembering]
  | _ => simp [remembering]

/-- A create of an initialised service is remembered, whatever becomes of it. -/
theorem Step.remembered_eq (hs : Step s c es r s') :
    s'.remembered =
      ((s.workspace?.bind fun _ => c.creation?).map fun a => s.stamped a.1).or s.remembered := by
  cases hs with
  | rejected hj =>
    cases hj with
    | createUnready hc hw => simp [hw]
    | _ => simp [Call.creation?]
  | unencodable hc hw hv => simp [hc, hw, remembering]
  | applied hc hw hv hr => simp [hc, hw, remembering]
  | unapplied hc hw hv hr => simp [hc, hw, remembering]
  | _ => simp [Call.creation?]

theorem workspace?_eq_some_iff {dir : Path} :
    s.workspace? = some dir ↔ s.phase ≠ .uninitialized ∧ s.dir = some dir := by
  unfold workspace?
  split <;> simp_all

structure Sound (s : Service Args Output) : Prop where
  dir_eq_none : s.dir = none ↔ s.phase = .uninitialized
  applied_of_created : s.phase = .created → s.applied = true
  remembered_of_applied : s.applied = true → s.remembered ≠ none

theorem Sound.workspace?_eq_dir (hi : Sound s) : s.workspace? = s.dir := by
  unfold workspace?
  split
  · rename_i hp
    exact (hi.dir_eq_none.mpr hp).symm
  · rfl

theorem Sound.workspace?_eq_none_iff (hi : Sound s) :
    s.workspace? = none ↔ s.phase = .uninitialized := by
  rw [hi.workspace?_eq_dir]
  exact hi.dir_eq_none

theorem Step.sound (hs : Step s c es r s') (hi : Sound s) : Sound s' := by
  obtain ⟨hd, hc, hr⟩ := hi
  cases hs with
  | initialized _ => exact ⟨by simp, by simp, hr⟩
  | uninitialized _ => exact ⟨by simp, by simp, hr⟩
  | rejected _ => exact ⟨hd, hc, hr⟩
  | unencodable _ _ _ => exact ⟨hd, hc, by simp [remembering]⟩
  | applied _ hw _ _ =>
    obtain ⟨-, hw⟩ := workspace?_eq_some_iff.mp hw
    exact ⟨by simp [remembering, hw], by simp, by simp [remembering]⟩
  | unapplied _ hw _ _ =>
    refine ⟨?_, ?_, by simp [remembering]⟩
    · simp only [withdrawn_dir, withdrawn_phase, remembering]
      split <;> simp_all
    · simp only [withdrawn_phase, withdrawn_applied, remembering]
      split <;> simp_all
  | read _ _ _ => exact ⟨hd, hc, hr⟩
  | unread _ _ _ => exact ⟨hd, hc, hr⟩
  | destroyed _ hw _ _ =>
    obtain ⟨-, hw⟩ := workspace?_eq_some_iff.mp hw
    exact ⟨by simp [hw], by simp, hr⟩
  | undestroyed _ _ _ _ => exact ⟨hd, hc, hr⟩

/-- Only an init takes the directory away. -/
theorem Step.workspace?_eq (hs : Step s c es r s') (hi : Sound s) (hc : c.isInit = false) :
    s'.workspace? = s.workspace? := by
  rw [hi.workspace?_eq_dir, (hs.sound hi).workspace?_eq_dir, hs.dir_eq, hc]
  rfl

theorem History.sound (hh : History s₀ h s) (hi : Sound s₀) : Sound s := by
  induction hh with
  | begin => exact hi
  | step past last ih => exact last.sound ih

theorem sound_new (kind : ResourceKind Args Output) (settings : Settings)
    (context : Terraform.Context) : Sound ((Service.new kind settings).withContext context) :=
  ⟨by simp [new, withContext], by simp [new, withContext], by simp [new, withContext]⟩

theorem History.setup_eq (hh : History s₀ h s) :
    s.kind = s₀.kind ∧ s.settings = s₀.settings ∧ s.context = s₀.context := by
  induction hh with
  | begin => exact ⟨rfl, rfl, rfl⟩
  | step past last ih =>
    obtain ⟨hk, hs, hc⟩ := last.setup_eq
    exact ⟨hk.trans ih.1, hs.trans ih.2.1, hc.trans ih.2.2⟩

theorem History.applied_iff (hh : History s₀ h s) (h₀ : s₀.applied = false) :
    s.applied = true ↔ Stands Entry.applied Entry.lost h := by
  induction hh with
  | begin => simp [h₀, not_stands_nil]
  | step past last ih => simp [last.applied_eq, stands_cons, ih]

def preparedDir? (h : List (Entry Args Output)) : Option Path :=
  (latestInit? h).bind Entry.prepared?

theorem History.dir_eq (hh : History s₀ h s) (h₀ : s₀.dir = none) : s.dir = preparedDir? h := by
  induction hh with
  | begin => exact h₀
  | @step h s s' c es r past last ih =>
    rw [last.dir_eq, ih, preparedDir?, preparedDir?, latestInit?_cons]
    cases hc : c.isInit <;> simp [hc]

theorem preparedDir?_eq_some_iff {d : Path} : preparedDir? h = some d ↔
    ∃ a, latestInit? h = some a ∧ a.succeeded = true ∧ a.target? = some d := by
  simp [preparedDir?, Entry.prepared?, Option.bind_eq_some_iff]

end Provision.Service
