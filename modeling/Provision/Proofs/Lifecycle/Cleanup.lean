import Provision.Kind.Document
import Provision.Proofs.Lifecycle.Memory

/-!
When a created resource can be destroyed without naming it again. A create puts its arguments in
place before it knows whether they have flags, so one that is turned away takes the means to destroy
with it.
-/

set_option autoImplicit false

namespace Provision.Service

open Terraform (Context Executor Exchange Script)

variable {Args Output σ : Type} {s₀ s s' : Service Args Output} {h : List (Entry Args Output)}

/-- A destroy without arguments comes to terraform. -/
def Destroyable (s : Service Args Output) : Prop :=
  ∃ i, s.Asks (.destroy none) [i] ∧ i.subcommand = .destroy

theorem destroyable_iff : s.Destroyable ↔ ∃ i, s.request? (.destroy none) = some i := by
  constructor
  · rintro ⟨i, ha, -⟩
    exact ⟨i, by simpa [Option.toList_eq_singleton_iff] using asks_iff.mp ha⟩
  · rintro ⟨i, hi⟩
    refine ⟨i, asks_iff.mpr (by simp [hi]), ?_⟩
    obtain ⟨-, -, -, -, -, -, rfl⟩ := request?_destroy_iff.mp hi
    rfl

theorem destroyable_iff_encodable {a : Args} {dir : Path} (hm : s.remembered = some a)
    (hw : s.workspace? = some dir) : s.Destroyable ↔ s.kind.Encodable (s.stamped a) := by
  rw [destroyable_iff, ← exists_hasFlags_iff]
  constructor
  · rintro ⟨i, hi⟩
    obtain ⟨a', -, vars, ha, -, hf, -⟩ := request?_destroy_iff.mp hi
    rw [Option.none_or, hm] at ha
    cases ha
    exact ⟨vars, hf⟩
  · rintro ⟨vars, hf⟩
    exact ⟨_, request?_destroy_iff.mpr ⟨a, dir, vars, by simp [hm], hw, hf, rfl⟩⟩

theorem Step.create_issued_iff {c : Call Args} {es : List Exchange} {r : Result Output} {a : Args}
    {extra : List String} (hs : Step s c es r s') (hc : c.creation? = some (a, extra))
    (hw : s.workspace? ≠ none) : es ≠ [] ↔ s.kind.Encodable (s.stamped a) := by
  obtain ⟨dir, hw⟩ := Option.ne_none_iff_exists'.mp hw
  have hm := hs.invocations_eq
  rw [request?_of_creation hc] at hm
  cases hv : s.varsOf (s.stamped a) extra with
  | error e =>
    have hn : ¬ s.kind.Encodable (s.stamped a) := varsOf_error_iff.mp ⟨e, hv⟩
    rw [change?_eq_none (.inr ⟨e, hv⟩)] at hm
    simp [hn, List.map_eq_nil_iff.mp hm]
  | ok vars =>
    obtain ⟨fs, hf, -⟩ := varsOf_eq_ok_iff.mp hv
    have he : s.kind.Encodable (s.stamped a) := exists_hasFlags_iff.mp ⟨fs, hf⟩
    rw [change?_eq hw hv] at hm
    refine iff_of_true ?_ he
    rintro rfl
    cases hm

theorem Step.destroy_unencodable {es : List Exchange} {r : Result Output}
    (hs : Step s (.destroy none) es r s') (hd : ¬ s.Destroyable) (hm : s.remembered ≠ none)
    (hw : s.workspace? ≠ none) : es = [] ∧ ∃ t, r = .error (.encode t) := by
  have hn : es = [] := by
    rw [destroyable_iff, not_exists] at hd
    have hr : s.request? (.destroy none) = none := Option.eq_none_iff_forall_ne_some.mpr hd
    simpa [hr] using hs.invocations_eq
  refine ⟨hn, ?_⟩
  obtain ⟨t, rfl | rfl⟩ := hs.exchanges_eq_nil_iff.mp hn
  · cases hs.rejection_of_violation.2 with
    | createUnready hc _ => cases hc
    | destroyUnset hr => exact absurd hr hm
    | destroyUnready _ hw' => exact absurd hw' hw
  · exact ⟨t, rfl⟩

/-- A created service can be destroyed without naming the resource exactly if the arguments of the
latest create still have flags when they are stamped again. That create need not have been issued:
then the service is still created, and the destroy fails to encode. -/
theorem destroyable_of_created_iff (kind : ResourceKind Args Output) (settings : Settings)
    (context : Context) (x : Executor σ) (w : σ) (calls : List (Call Args))
    (hp : ((Course.new kind settings context w).run x calls).service.phase = .created) :
    let p := (Course.new kind settings context w).run x calls
    let stamp := kind.stamp settings.gatewayUrl
    ∃ b a extra, latestCreate? p.entries = some b ∧ b.call.creation? = some (a, extra) ∧
      (b.exchanges ≠ [] ↔ kind.Encodable (stamp a)) ∧
      (p.service.Destroyable ↔ kind.Encodable (stamp (stamp a))) ∧
      (¬ p.service.Destroyable → ∀ {τ : Type} (y : Executor τ) (v : τ),
        (y.converse (p.service.perform (.destroy none)) v).exchanges = [] ∧
          ∃ t, (y.converse (p.service.perform (.destroy none)) v).result.1
            = .error (.encode t)) := by
  intro p stamp
  have hh : History _ p.entries p.service := history_new kind settings context x w calls
  have h₀ : Sound ((Service.new kind settings).withContext context) :=
    sound_new kind settings context
  have hi : Sound p.service := hh.sound h₀
  have hw : p.service.workspace? ≠ none := by
    rw [Ne, hi.workspace?_eq_none_iff, hp]
    decide
  have hm : p.service.remembered ≠ none := hi.remembered_of_applied (hi.applied_of_created hp)
  obtain ⟨dir, hd⟩ := Option.ne_none_iff_exists'.mp hw
  obtain ⟨m, hm'⟩ := Option.ne_none_iff_exists'.mp hm
  obtain ⟨b, a, extra, hb, hc, rfl⟩ := hh.create_of_remembered h₀ rfl hm'
  refine ⟨b, a, extra, hb, hc, ?_, ?_, ?_⟩
  · obtain ⟨hbw, hbk, hbs, hs⟩ := hh.latestCreate?_step h₀ hb
    rw [hs.create_issued_iff hc hbw, hbk, hbs]
    rfl
  · rw [destroyable_iff_encodable hm' hd, hh.stamped_eq, hh.setup_eq.1]
    rfl
  · intro hn τ y v
    exact (step_converse y p.service (.destroy none) v).destroy_unencodable hn hm hw

def listed (later : List (Call Json)) : Course Json Json Script :=
  (Course.new ResourceKind.freeForm {} ⟨none, false⟩ .empty).run Script.executor
    (.init (some ⟨"/m/a"⟩) :: .create (.obj [("name", .str "one")]) [] :: .create (.arr []) [] ::
      later)

/-- Created once more, the resource can be destroyed again. -/
theorem destroyable_of_second_create :
    let p := listed [.create (.obj [("name", .str "two")]) []]
    p.service.phase = .created ∧ p.service.Destroyable := by
  obtain ⟨b, a, extra, hb, hc, -, hd, -⟩ := destroyable_of_created_iff ResourceKind.freeForm {}
    ⟨none, false⟩ Script.executor .empty [.init (some ⟨"/m/a"⟩),
      .create (.obj [("name", .str "one")]) [], .create (.arr []) [],
      .create (.obj [("name", .str "two")]) []] rfl
  cases hb
  cases hc
  exact ⟨rfl, hd.mpr ⟨_, rfl⟩⟩

/-- Until then it is still created, and cannot be destroyed. -/
theorem created_not_destroyable :
    (listed []).service.phase = .created ∧ ¬ (listed []).service.Destroyable ∧
      ((listed []).entry Script.executor (.destroy none)).exchanges.length = 0 ∧
      ((listed []).entry Script.executor (.destroy none)).result =
        .error (.encode "argument record must serialise to an object, got an array") := by
  refine ⟨rfl, ?_, rfl, rfl⟩
  rw [destroyable_iff]
  rintro ⟨i, hi⟩
  cases hi

end Provision.Service
