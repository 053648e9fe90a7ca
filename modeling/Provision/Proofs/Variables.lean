import Provision.Proofs.Assoc
import Provision.Text.Pieces
import Provision.Variables

/-!
The flags of a record: one pair for each field that is set, in the order of the names. Cut at the
first `=` they give the names and texts back. A record has flags exactly when it is an object; a
value that stands for a set field always has a text.
-/

set_option autoImplicit false

namespace Provision

theorem Json.ofList_intText (n : Int) : String.ofList (intText n) = toString n := by
  cases n with
  | ofNat m =>
    have h : intText (.ofNat m) = natText m := if_neg (by simp)
    rw [h, natText, ← Nat.toString_eq_ofList_toDigits]
    rfl
  | negSucc m =>
    have h : intText (.negSucc m) = '-' :: natText (m + 1) := if_pos (Int.negSucc_lt_zero m)
    rw [h, natText, ← String.toList_inj, String.toList_ofList]
    simp [Int.toString_eq_repr, Int.repr, Nat.repr]

namespace Variables

def fieldOf? (m : String × Json) : Option (String × String) :=
  if m.2.isZero then none else (textOf? m.2).map fun t => (m.1, t)

def fieldsOf (ms : List (String × Json)) : List (String × String) :=
  (sortMembers ms).filterMap fieldOf?

def pair (f : String × String) : List String := ["-var", f.1 ++ "=" ++ f.2]

theorem textOf?_eq_some_iff {v : Json} {t : String} : textOf? v = some t ↔
    v = .str t ∨ v = .bool true ∧ t = "true" ∨ v = .bool false ∧ t = "false" ∨
      (∃ n : Int, v = .num (.int n) ∧ t = toString n) ∨
      (∃ x, v = .num (.float x) ∧ t = String.ofList (Json.floatText x)) ∨
      ((∃ xs, v = .arr xs) ∨ ∃ ms, v = .obj ms) ∧ t = v.compact := by
  cases v with
  | null => simp [textOf?]
  | bool b => cases b <;> simp [textOf?, eq_comm]
  | num n => cases n <;> simp [textOf?, Json.Number.text, Json.ofList_intText, eq_comm]
  | str s => simp [textOf?]
  | arr xs => simp [textOf?, eq_comm]
  | obj ms => simp [textOf?, eq_comm]

/-- Only null has no text, and null is not a set field. -/
theorem textOf?_of_not_isZero {v : Json} (h : ¬ v.isZero = true) : ∃ t, textOf? v = some t := by
  cases v with
  | null => exact absurd rfl h
  | bool b => cases b <;> exact ⟨_, rfl⟩
  | num n => exact ⟨_, rfl⟩
  | str s => exact ⟨_, rfl⟩
  | arr xs => exact ⟨_, rfl⟩
  | obj ms => exact ⟨_, rfl⟩

theorem fieldOf?_eq_some_iff {m : String × Json} {k t : String} :
    fieldOf? m = some (k, t) ↔ m.1 = k ∧ m.2.isZero = false ∧ textOf? m.2 = some t := by
  unfold fieldOf?
  cases hz : m.2.isZero with
  | true => simp
  | false =>
    simp only [Bool.false_eq_true, if_false, Option.map_eq_some_iff, Prod.mk.injEq, true_and]
    constructor
    · rintro ⟨u, hu, hk, rfl⟩
      exact ⟨hk, hu⟩
    · rintro ⟨hk, ht⟩
      exact ⟨t, ht, hk, rfl⟩

theorem flagsOf_eq (name : String) (v : Json) :
    flagsOf name v = .ok ((fieldOf? (name, v)).toList.flatMap pair) := by
  by_cases h : v.isZero = true
  · simp [flagsOf, fieldOf?, h]
  · obtain ⟨t, ht⟩ := textOf?_of_not_isZero h
    simp [flagsOf, fieldOf?, pair, h, ht]

theorem flagsOfMembers_eq (ms : List (String × Json)) :
    flagsOfMembers ms = .ok ((ms.filterMap fieldOf?).flatMap pair) := by
  induction ms with
  | nil => rfl
  | cons m ms ih =>
    obtain ⟨k, v⟩ := m
    simp only [flagsOfMembers, flagsOf_eq, ih]
    cases hf : fieldOf? (k, v) <;> simp [hf]

theorem encode_obj (ms : List (String × Json)) :
    encode (.obj ms) = .ok ((fieldsOf ms).flatMap pair) :=
  flagsOfMembers_eq (sortMembers ms)

theorem ordered_fieldsOf (ms : List (String × Json)) : Ordered (fieldsOf ms) := by
  refine List.pairwise_filterMap.mpr ((ordered_sortMembers ms).imp ?_)
  intro a b hlt f hf g hg
  rw [← (fieldOf?_eq_some_iff.mp hf).1, ← (fieldOf?_eq_some_iff.mp hg).1]
  exact hlt

theorem mem_fieldsOf {ms : List (String × Json)} (hn : (ms.map Prod.fst).Nodup) {k t : String} :
    (k, t) ∈ fieldsOf ms ↔ ∃ v, (k, v) ∈ ms ∧ v.isZero = false ∧ textOf? v = some t := by
  simp only [fieldsOf, List.mem_filterMap, (sortMembers_perm hn).mem_iff, fieldOf?_eq_some_iff]
  constructor
  · rintro ⟨⟨_, v⟩, hm, rfl, hz, ht⟩
    exact ⟨v, hm, hz, ht⟩
  · rintro ⟨v, hm, hz, ht⟩
    exact ⟨(k, v), hm, rfl, hz, ht⟩

/-- The names and texts that pairs of flags stand for: each text is cut at its first `=`. -/
def cut? : List String → Option (List (String × String))
  | [] => some []
  | [_] => none
  | flag :: f :: rest =>
    if flag = "-var" then
      match Text.splitOnce? '=' f.toList, cut? rest with
      | some (k, t), some fs => some ((String.ofList k, String.ofList t) :: fs)
      | _, _ => none
    else none

theorem cut?_pairs {fs : List (String × String)} (h : ∀ f ∈ fs, '=' ∉ f.1.toList) :
    cut? (fs.flatMap pair) = some fs := by
  induction fs with
  | nil => rfl
  | cons f fs ih =>
    obtain ⟨hf, hs⟩ := List.forall_mem_cons.mp h
    have hc := Text.splitOnce?_append hf f.2.toList
    simp [pair, cut?, hc, ih hs]

theorem encode_error {j : Json} {e : Failure} (h : encode j = .error e) :
    e = .encode ("argument record must serialise to an object, got " ++ j.kindText) := by
  cases j with
  | obj ms =>
    rw [encode_obj] at h
    cases h
  | _ =>
    cases h
    rfl

theorem combine_error {j : Json} {extra : List String} {e : Failure}
    (h : combine j extra = .error e) :
    e = .encode ("argument record must serialise to an object, got " ++ j.kindText) := by
  cases hj : encode j with
  | ok fs =>
    simp only [combine, hj, Except.map] at h
    cases h
  | error f =>
    simp only [combine, hj, Except.map] at h
    cases h
    exact encode_error hj

end Variables
end Provision
