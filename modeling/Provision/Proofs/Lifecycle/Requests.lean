import Provision.Proofs.Lifecycle.Effect
import Provision.Terraform.Script

set_option autoImplicit false

namespace Provision.Service

open Terraform (Context Executor Exchange ProcessOutput Script completed completed_eq_ok_iff
  completed_error outputsOf outputsOf_eq_ok_iff outputsOf_error initArgs mutatingArgs queryArgs)

variable {Args Output : Type} {s₀ s s' : Service Args Output} {h : List (Entry Args Output)}
  {c : Call Args} {es : List Exchange} {r : Result Output}

theorem Step.one_request (hs : Step s c es r s') :
    es.length ≤ 1 ∧ ∀ q ∈ es, q.invocation.subcommand = c.subcommand := by
  cases hs with
  | rejected _ => simp
  | unencodable _ _ _ => simp
  | applied hc _ _ _ => simp [Call.subcommand_of_creation hc]
  | unapplied hc _ _ _ => simp [Call.subcommand_of_creation hc]
  | _ => simp [Call.subcommand]

theorem Step.workspace_eq (hs : Step s c es r s') (hc : c.isInit = false) :
    ∀ q ∈ es, s.workspace? = some q.invocation.workspace := by
  cases hs with
  | initialized _ => cases hc
  | uninitialized _ => cases hc
  | rejected _ => simp
  | unencodable _ _ _ => simp
  | applied _ hw _ _ => simp [hw]
  | unapplied _ hw _ _ => simp [hw]
  | read hw _ _ => simp [hw]
  | unread hw _ _ => simp [hw]
  | destroyed _ hw _ _ => simp [hw]
  | undestroyed _ hw _ _ => simp [hw]

theorem Rejection.text {e : Failure} (hj : Rejection s c e) :
    ∃ t, e = .contractViolation t ∨ e = .encode t := by
  cases hj with
  | destroyUnencodable _ _ _ => exact ⟨_, .inr rfl⟩
  | _ => exact ⟨_, .inl rfl⟩

/-- Terraform is not asked exactly if the service itself turns the call away. -/
theorem Step.exchanges_eq_nil_iff (hs : Step s c es r s') :
    es = [] ↔ ∃ t, r = .error (.contractViolation t) ∨ r = .error (.encode t) := by
  cases hs with
  | initialized _ => simp
  | uninitialized hr => obtain ⟨i, rfl⟩ | ⟨d, rfl⟩ := completed_error hr <;> simp
  | rejected hj =>
    obtain ⟨t, rfl | rfl⟩ := hj.text <;> simp
  | unencodable _ _ _ => simp
  | applied _ _ _ _ => simp
  | unapplied _ _ _ hr => obtain ⟨i, rfl⟩ | ⟨d, rfl⟩ := completed_error hr <;> simp
  | read _ _ _ => simp
  | unread _ _ hr => obtain ⟨i, rfl⟩ | ⟨d, rfl⟩ := outputsOf_error hr <;> simp
  | destroyed _ _ _ _ => simp
  | undestroyed _ _ _ hr => obtain ⟨i, rfl⟩ | ⟨d, rfl⟩ := completed_error hr <;> simp

theorem not_exited_of_completed {failed : String → Failure} {q : Exchange} {e : Failure}
    (hr : completed failed q.reply = .error e) {P : ProcessOutput → Prop} :
    ¬ ∃ q' out, [q] = [q'] ∧ q'.reply = .ok out ∧ out.exitCode = 0 ∧ P out := by
  rintro ⟨q', out, hq, ho, hx, -⟩
  cases hq
  cases hr.symm.trans (completed_eq_ok_iff.mpr ⟨ho, hx⟩)

/-- A call succeeds exactly if terraform was asked and exited with 0; a reading of outputs, if they
can be read as well. -/
theorem Step.succeeded_iff (hs : Step s c es r s') :
    Entry.succeeded ⟨s, c, es, r, s'⟩ = true ↔ ∃ q out, es = [q] ∧ q.reply = .ok out ∧
      out.exitCode = 0 ∧ (c = .output → Outputs.parse? out.stdout ≠ none) := by
  cases hs with
  | initialized hr =>
    obtain ⟨ho, hx⟩ := completed_eq_ok_iff.mp hr
    exact iff_of_true rfl ⟨_, _, rfl, ho, hx, nofun⟩
  | uninitialized hr => exact iff_of_false Bool.false_ne_true (not_exited_of_completed hr)
  | rejected _ => simp
  | unencodable _ _ _ => simp
  | applied hc _ _ hr =>
    obtain ⟨ho, hx⟩ := completed_eq_ok_iff.mp hr
    refine iff_of_true rfl ⟨_, _, rfl, ho, hx, ?_⟩
    rintro rfl
    cases hc
  | unapplied _ _ _ hr => exact iff_of_false Bool.false_ne_true (not_exited_of_completed hr)
  | read _ _ hr =>
    obtain ⟨out, ⟨ho, hx⟩, hp⟩ := outputsOf_eq_ok_iff.mp hr
    exact iff_of_true rfl ⟨_, out, rfl, ho, hx, fun _ => by simp [hp]⟩
  | unread _ _ hr =>
    refine iff_of_false Bool.false_ne_true ?_
    rintro ⟨_, out, hq, ho, hx, hp⟩
    cases hq
    obtain ⟨o, hp⟩ := Option.ne_none_iff_exists'.mp (hp rfl)
    cases hr.symm.trans (outputsOf_eq_ok_iff.mpr ⟨out, ⟨ho, hx⟩, hp⟩)
  | destroyed _ _ _ hr =>
    obtain ⟨ho, hx⟩ := completed_eq_ok_iff.mp hr
    exact iff_of_true rfl ⟨_, _, rfl, ho, hx, nofun⟩
  | undestroyed _ _ _ hr => exact iff_of_false Bool.false_ne_true (not_exited_of_completed hr)

/-- A violation always comes from the checks before terraform, and leaves the service as it was. A
failure to encode may not, since a create remembers its arguments first. -/
theorem Step.rejection_of_violation {t : String}
    (hs : Step s c es (.error (.contractViolation t)) s') :
    s' = s ∧ Rejection s c (.contractViolation t) := by
  cases hs with
  | rejected hj => exact ⟨rfl, hj⟩
  | uninitialized hr => obtain ⟨i, h⟩ | ⟨d, h⟩ := completed_error hr <;> cases h
  | unapplied _ _ _ hr => obtain ⟨i, h⟩ | ⟨d, h⟩ := completed_error hr <;> cases h
  | unread _ _ hr => obtain ⟨i, h⟩ | ⟨d, h⟩ := outputsOf_error hr <;> cases h
  | undestroyed _ _ _ hr => obtain ⟨i, h⟩ | ⟨d, h⟩ := completed_error hr <;> cases h

theorem Rejection.violation_text {t : String} (hj : Rejection s c (.contractViolation t)) :
    (∃ step, t = s.kind.name ++ " " ++ step ++ " called before a successful init") ∨
      t = s.kind.name ++ " output requested before any successful create" ∨
      t = "got unset destroy args, set it in object or pass as a parameter" := by
  cases hj with
  | outputUnapplied _ _ => exact .inr (.inl rfl)
  | destroyUnset _ => exact .inr (.inr rfl)
  | _ => exact .inl ⟨_, rfl⟩

theorem append_ne {t p q : String} (hq : ¬ q.toList <:+ t.toList) : p ++ q ≠ t := by
  rintro rfl
  exact hq ⟨p.toList, by rw [String.toList_append]⟩

theorem Rejection.text_ne {t : String} (hj : Rejection s c (.contractViolation t)) :
    t ≠ "no remembered creation arguments" := by
  obtain ⟨step, rfl⟩ | rfl | rfl := hj.violation_text
  · exact append_ne (by decide)
  · exact append_ne (by decide)
  · decide

theorem Step.output_issued_iff (hs : Step s .output es r s') :
    es ≠ [] ↔ s.workspace? ≠ none ∧ s.applied = true := by
  cases hs with
  | rejected hj =>
    cases hj with
    | createUnready hc _ => simp [Call.creation?] at hc
    | outputUnready hw => simp [hw]
    | outputUnapplied hw ha => simp [ha]
  | unencodable hc _ _ => simp [Call.creation?] at hc
  | applied hc _ _ _ => simp [Call.creation?] at hc
  | unapplied hc _ _ _ => simp [Call.creation?] at hc
  | read hw ha _ => simp [hw, ha]
  | unread hw ha _ => simp [hw, ha]

/-- Under any executor the call ends in a violation, and terraform is not asked. -/
def Refuses (s : Service Args Output) (c : Call Args) : Prop :=
  ∀ (τ : Type) (y : Executor τ) (v : τ),
    (y.converse (s.perform c) v).exchanges = [] ∧
      ∃ t, (y.converse (s.perform c) v).result.1 = .error (.contractViolation t)

theorem refuses_of_step (hs : ∀ es r s', Step s c es r s' →
    es = [] ∧ ∃ t, r = .error (.contractViolation t)) : s.Refuses c :=
  fun _ y v => hs _ _ _ (step_converse y s c v)

theorem Refuses.rejection (hr : s.Refuses c) : ∃ t, Rejection s c (.contractViolation t) := by
  obtain ⟨-, t, ht⟩ := hr Script Script.executor .empty
  have hs := step_converse Script.executor s c .empty
  rw [ht] at hs
  exact ⟨t, hs.rejection_of_violation.2⟩

theorem refuses_output (ha : s.applied = false) : s.Refuses .output := by
  refine refuses_of_step fun es r s' hs => ?_
  have hn : es = [] := by simpa [ha] using hs.output_issued_iff
  cases hs with
  | rejected hj =>
    cases hj with
    | createUnready hc _ => cases hc
    | outputUnready _ => exact ⟨rfl, _, rfl⟩
    | outputUnapplied _ _ => exact ⟨rfl, _, rfl⟩
  | unencodable hc _ _ => cases hc
  | _ => cases hn

theorem refuses_output_iff (hw : s.workspace? ≠ none) : s.Refuses .output ↔ s.applied = false := by
  refine ⟨fun hr => ?_, refuses_output⟩
  obtain ⟨t, hj⟩ := hr.rejection
  cases hj with
  | createUnready hc _ => cases hc
  | outputUnready hw' => exact absurd hw' hw
  | outputUnapplied _ ha => exact ha

theorem refuses_destroy_iff (hw : s.workspace? ≠ none) :
    s.Refuses (.destroy none) ↔ s.remembered = none := by
  constructor
  · intro hr
    obtain ⟨t, hj⟩ := hr.rejection
    cases hj with
    | createUnready hc _ => cases hc
    | destroyUnset hn => exact hn
    | destroyUnready _ hw' => exact absurd hw' hw
  · intro hn
    refine refuses_of_step fun es r s' hs => ?_
    cases hs with
    | rejected hj =>
      cases hj with
      | createUnready hc _ => cases hc
      | destroyUnset _ => exact ⟨rfl, _, rfl⟩
      | destroyUnready ha _ => simp [hn] at ha
      | destroyUnencodable ha _ _ => simp [hn] at ha
    | unencodable hc _ _ => cases hc
    | applied hc _ _ _ => cases hc
    | unapplied hc _ _ _ => cases hc
    | destroyed ha _ _ _ => simp [hn] at ha
    | undestroyed ha _ _ _ => simp [hn] at ha

def change? (s : Service Args Output) (sub : Terraform.Subcommand) (args : Args)
    (extra : List String) : Option Terraform.Invocation :=
  s.workspace?.bind fun dir => (s.varsOf (s.stamped args) extra).toOption.map fun vars =>
    ⟨sub, dir, mutatingArgs vars⟩

def request? (s : Service Args Output) : Call Args → Option Terraform.Invocation
  | .init dir? => some ⟨.init, s.target dir?, initArgs⟩
  | .create args extra => s.change? .apply args extra
  | .createWithFiles args files => s.change? .apply args (Variables.encodeFiles files)
  | .output => if s.applied then s.workspace?.map fun dir => ⟨.output, dir, queryArgs⟩ else none
  | .destroy args? => (args?.or s.remembered).bind fun args => s.change? .destroy args []

theorem request?_of_creation {args : Args} {extra : List String}
    (hc : c.creation? = some (args, extra)) : s.request? c = s.change? .apply args extra := by
  cases c with
  | create a e => cases hc; rfl
  | createWithFiles a fs => cases hc; rfl
  | _ => cases hc

theorem change?_eq {sub : Terraform.Subcommand} {args : Args} {extra vars : List String} {dir : Path}
    (hw : s.workspace? = some dir) (hv : s.varsOf (s.stamped args) extra = .ok vars) :
    s.change? sub args extra = some ⟨sub, dir, mutatingArgs vars⟩ := by
  simp [change?, hw, hv, Except.toOption]

theorem change?_eq_none {sub : Terraform.Subcommand} {args : Args} {extra : List String}
    (h : s.workspace? = none ∨ ∃ e, s.varsOf (s.stamped args) extra = .error e) :
    s.change? sub args extra = none := by
  rcases h with hw | ⟨e, hv⟩
  · simp [change?, hw]
  · simp [change?, hv, Except.toOption]

theorem Rejection.request?_eq {e : Failure} (hj : Rejection s c e) : s.request? c = none := by
  cases hj with
  | createUnready hc hw =>
    rw [request?_of_creation hc]
    exact change?_eq_none (.inl hw)
  | outputUnready hw => simp [request?, hw]
  | outputUnapplied hw ha => simp [request?, ha]
  | destroyUnset hr => simp [request?, hr]
  | destroyUnready ha hw => simp [request?, ha, change?_eq_none (.inl hw)]
  | destroyUnencodable ha hw hv => simp [request?, ha, change?_eq_none (.inr ⟨_, hv⟩)]

/-- The request is settled before terraform replies. -/
theorem Step.invocations_eq (hs : Step s c es r s') :
    es.map Exchange.invocation = (s.request? c).toList := by
  cases hs with
  | initialized _ => rfl
  | uninitialized _ => rfl
  | rejected hj => simp [hj.request?_eq]
  | unencodable hc hw hv => simp [request?_of_creation hc, change?_eq_none (.inr ⟨_, hv⟩)]
  | applied hc hw hv hr => simp [request?_of_creation hc, change?_eq hw hv]
  | unapplied hc hw hv hr => simp [request?_of_creation hc, change?_eq hw hv]
  | read hw ha hr => simp [request?, hw, ha]
  | unread hw ha hr => simp [request?, hw, ha]
  | destroyed ha hw hv hr => simp [request?, ha, change?_eq hw hv]
  | undestroyed ha hw hv hr => simp [request?, ha, change?_eq hw hv]

theorem Step.request?_of_mem {q : Exchange} (hs : Step s c es r s') (hq : q ∈ es) :
    s.request? c = some q.invocation := by
  have hm : q.invocation ∈ es.map Exchange.invocation := List.mem_map_of_mem hq
  rwa [hs.invocations_eq, Option.mem_toList] at hm

theorem Step.create_granted (hs : Step s c es r s') {a : Args} {extra : List String}
    (hc : c.creation? = some (a, extra)) {i : Terraform.Invocation} (hi : s.request? c = some i)
    (hg : ∀ q ∈ es, q.Granted) :
    r = .ok none ∧ s' = { s.remembering a with applied := true, phase := .created } := by
  cases hs with
  | rejected hj => simp [hj.request?_eq] at hi
  | unencodable hc' hw hv =>
    rw [request?_of_creation hc', change?_eq_none (.inr ⟨_, hv⟩)] at hi
    cases hi
  | applied hc' hw hv hr =>
    cases hc.symm.trans hc'
    exact ⟨rfl, rfl⟩
  | unapplied hc' hw hv hr =>
    obtain ⟨out, ho, hx⟩ := Exchange.granted_iff.mp (hg _ (List.mem_singleton_self _))
    rw [completed_eq_ok_iff.mpr ⟨ho, hx⟩] at hr
    cases hr
  | _ => cases hc

theorem Step.output_result (hs : Step s .output es r s') {i : Terraform.Invocation}
    (hi : s.request? .output = some i) :
    ∃ reply say, es = [⟨i, reply⟩] ∧
      r = (outputsOf say i.workspace reply).map fun o => some (s.kind.project o) := by
  cases hs with
  | rejected hj => simp [hj.request?_eq] at hi
  | read hw ha hr =>
    simp only [request?, ha, if_true, hw, Option.map_some, Option.some.injEq] at hi
    subst hi
    exact ⟨_, _, rfl, by rw [hr]; rfl⟩
  | unread hw ha hr =>
    simp only [request?, ha, if_true, hw, Option.map_some, Option.some.injEq] at hi
    subst hi
    exact ⟨_, _, rfl, by rw [hr]; rfl⟩
  | unencodable hc _ _ => cases hc
  | applied hc _ _ _ => cases hc
  | unapplied hc _ _ _ => cases hc

def Asks (s : Service Args Output) (c : Call Args) (is : List Terraform.Invocation) : Prop :=
  ∀ (τ : Type) (y : Executor τ) (v : τ),
    (y.converse (s.perform c) v).exchanges.map Exchange.invocation = is

theorem asks_iff {is : List Terraform.Invocation} : s.Asks c is ↔ (s.request? c).toList = is := by
  constructor
  · intro ha
    rw [← ha Script Script.executor .empty]
    exact (step_converse Script.executor s c .empty).invocations_eq.symm
  · intro hr τ y v
    rw [← hr]
    exact (step_converse y s c v).invocations_eq

/-- In any run a call asks terraform at most once, with its own subcommand and in the directory of
the latest init, which succeeded. It asks nothing exactly if it is turned away, and a violation
changes nothing. A call succeeds exactly if terraform exits with 0, to an answer that can be read if
outputs are asked for. -/
theorem requests_of_run (kind : ResourceKind Args Output) (settings : Settings)
    (context : Context) {σ : Type} (x : Executor σ) (w : σ) (calls : List (Call Args)) :
    let p := (Course.new kind settings context w).run x calls
    (∀ e ∈ p.entries,
      e.exchanges.length ≤ 1 ∧
      (∀ q ∈ e.exchanges, q.invocation.subcommand = e.call.subcommand) ∧
      (e.succeeded = true ↔ ∃ q out, e.exchanges = [q] ∧ q.reply = .ok out ∧ out.exitCode = 0 ∧
        (e.call = .output → Outputs.parse? out.stdout ≠ none)) ∧
      (e.exchanges = [] ↔
        ∃ t, e.result = .error (.contractViolation t) ∨ e.result = .error (.encode t)) ∧
      ∀ t, e.result = .error (.contractViolation t) →
        e.after = e.before ∧ t ≠ "no remembered creation arguments") ∧
    ∀ later e earlier, p.entries = later ++ e :: earlier → e.isInit = false →
      ∀ q ∈ e.exchanges, ∃ a, latestInit? earlier = some a ∧ a.succeeded = true ∧
        a.target? = some q.invocation.workspace := by
  intro p
  have hh : History _ p.entries p.service := history_new kind settings context x w calls
  constructor
  · intro e he
    have hs := hh.step_of_mem he
    obtain ⟨hl, hc⟩ := hs.one_request
    refine ⟨hl, hc, hs.succeeded_iff, hs.exchanges_eq_nil_iff, ?_⟩
    intro t ht
    rw [ht] at hs
    obtain ⟨ha, hj⟩ := hs.rejection_of_violation
    exact ⟨ha, hj.text_ne⟩
  · intro later e earlier hp hn q hq
    rw [hp] at hh
    obtain ⟨past, hs⟩ := hh.split
    have hi : Sound e.before := past.sound (sound_new kind settings context)
    have hw := hs.workspace_eq hn q hq
    rw [hi.workspace?_eq_dir, past.dir_eq rfl] at hw
    exact preparedDir?_eq_some_iff.mp hw

end Provision.Service
