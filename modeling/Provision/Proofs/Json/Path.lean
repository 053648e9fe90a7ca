import Provision.Proofs.Assoc
import Provision.Proofs.Json.Natural

/-!
Where a path leads. Each segment leads from an object to the member of exactly that name, from an
array to the item whose place it spells, and from anywhere else to nothing. A path is absent exactly
when one of its segments leads to nothing from where the segments before it have led. What a plus
and zeros in front do to a segment depends on the document that it meets: they are nothing to an
array, and make another name at an object.
-/

set_option autoImplicit false

namespace Provision.Json

/-- A segment leads to the first member of its name, or to the item at the place that it spells. -/
inductive Enters : Json → String → Json → Prop
  | member {before after : List (String × Json)} {name : String} {v : Json}
    (first : ∀ m ∈ before, m.1 ≠ name) : Enters (.obj (before ++ (name, v) :: after)) name v
  | item {xs : List Json} {segment : String} {i : Nat} {v : Json}
    (spells : Numeral segment.toList i) (small : i < 2 ^ 64) (there : xs[i]? = some v) :
    Enters (.arr xs) segment v

inductive Reaches : Json → List String → Json → Prop
  | here (j : Json) : Reaches j [] j
  | within {j k v : Json} {segment : String} {path : List String}
    (first : Enters j segment k) (rest : Reaches k path v) : Reaches j (segment :: path) v

section Segment

variable {j v : Json} {segment name : String} {ms : List (String × Json)}

theorem step_eq_some_iff : j.step segment = some v ↔ Enters j segment v := by
  constructor
  · intro h
    cases j with
    | arr xs =>
      obtain ⟨i, hi, hv⟩ := Option.bind_eq_some_iff.mp h
      obtain ⟨hs, hlt⟩ := natural64?_eq_some_iff.mp hi
      exact .item hs hlt hv
    | obj ms =>
      obtain ⟨before, after, rfl, hb⟩ := List.lookup_eq_some_iff.mp h
      exact .member fun m hm => (bne_iff_ne.mp (hb m hm)).symm
    | _ => cases h
  · intro h
    cases h with
    | member first =>
      exact List.lookup_eq_some_iff.mpr
        ⟨_, _, rfl, fun m hm => bne_iff_ne.mpr (first m hm).symm⟩
    | item hs hlt hv =>
      exact Option.bind_eq_some_iff.mpr ⟨_, natural64?_eq_some_iff.mpr ⟨hs, hlt⟩, hv⟩

theorem step_eq_none_iff : j.step segment = none ↔ ∀ v, ¬ Enters j segment v := by
  simp only [Option.eq_none_iff_forall_ne_some, ne_eq, step_eq_some_iff]

theorem enters_obj_iff_mem (h : Ordered ms) : Enters (.obj ms) name v ↔ (name, v) ∈ ms := by
  rw [← step_eq_some_iff]
  exact h.lookup_eq_some_iff

theorem getElem?_of_enters_obj (h : Enters (.obj ms) name v) :
    ∃ i : Nat, ms[i]? = some (name, v) := by
  cases h with
  | @member before after => exact ⟨before.length, by simp⟩

end Segment

section Path

variable {root v w : Json} {path : List String}

theorem dig_eq_some_iff : root.dig path = some v ↔ Reaches root path v := by
  induction path generalizing root with
  | nil =>
    constructor
    · intro h
      cases h
      exact .here v
    · intro h
      cases h
      rfl
  | cons s path ih =>
    rw [dig, Option.bind_eq_some_iff]
    constructor
    · rintro ⟨k, hk, hv⟩
      exact .within (step_eq_some_iff.mp hk) (ih.mp hv)
    · intro h
      cases h with
      | within first rest => exact ⟨_, step_eq_some_iff.mpr first, ih.mpr rest⟩

/-- A path is absent when one segment leads to nothing from where the segments before it lead. -/
theorem dig_eq_none_iff : root.dig path = none ↔
    ∃ p s q v, path = p ++ s :: q ∧ Reaches root p v ∧ ∀ w, ¬ Enters v s w := by
  constructor
  · intro h
    -- the first segment without a step ends the search, whatever stands behind it
    induction path generalizing root with
    | nil => cases h
    | cons s path ih =>
      cases hs : root.step s with
      | none => exact ⟨[], s, path, root, rfl, .here root, step_eq_none_iff.mp hs⟩
      | some k =>
        rw [dig, hs, Option.bind_some] at h
        obtain ⟨p, t, q, v, rfl, hr, hn⟩ := ih h
        exact ⟨s :: p, t, q, v, rfl, .within (step_eq_some_iff.mp hs) hr, hn⟩
  · rintro ⟨p, s, q, v, rfl, hr, hn⟩
    rw [dig_append, dig_eq_some_iff.mpr hr, Option.bind_some, dig, step_eq_none_iff.mpr hn]
    rfl

theorem dig_concat (h : root.dig path = some v) (segment : String) (rest : List String) :
    root.dig (path ++ segment :: rest) = (v.step segment).bind fun k => k.dig rest := by
  rw [dig_append, h, Option.bind_some, dig]

theorem dig_snoc_eq_some_iff (h : root.dig path = some v) (segment : String) :
    root.dig (path ++ [segment]) = some w ↔ Enters v segment w := by
  rw [dig_concat h, ← step_eq_some_iff]
  simp [dig]

theorem dig_ofMembers {ms : List (String × Json)} (h : (ms.map Prod.fst).Nodup) (name : String) :
    (ofMembers ms).dig [name] = ms.lookup name := by
  simp [dig, step, ofMembers, lookup_sortMembers h]

end Path

def spelled (plus : Bool) (zeros : Nat) (ds : List Char) : String :=
  String.ofList ((if plus then ['+'] else []) ++ (List.replicate zeros '0' ++ ds))

section Spelling

variable {ds : List Char} {n : Nat}

theorem afterPlus_spelled (hd : Digits ds) (plus : Bool) (zeros : Nat) :
    afterPlus (spelled plus zeros ds).toList = List.replicate zeros '0' ++ ds := by
  rw [spelled, String.toList_ofList]
  cases plus with
  | true => rfl
  | false => exact afterPlus_of_digits ((digits_zeros zeros).append hd)

theorem numeral_spelled_iff (hd : Digits ds) (hne : ds ≠ []) (plus : Bool) (zeros : Nat) :
    Numeral (spelled plus zeros ds).toList n ↔ Nat.ofDigitChars 10 ds 0 = n := by
  have hz : Digits (List.replicate zeros '0' ++ ds) := (digits_zeros zeros).append hd
  have hv : Nat.ofDigitChars 10 (List.replicate zeros '0' ++ ds) 0 = Nat.ofDigitChars 10 ds 0 := by
    rw [Nat.ofDigitChars_append, Nat.ofDigitChars_replicate_zero, Nat.mul_zero]
  rw [numeral_iff, afterPlus_spelled hd, decimalValue_eq, hv]
  simp [hz, hne]

theorem natural64?_spelled (hd : Digits ds) (hne : ds ≠ []) (plus plus' : Bool)
    (zeros zeros' : Nat) :
    natural64? (spelled plus zeros ds) = natural64? (spelled plus' zeros' ds) := by
  refine Option.ext fun n => ?_
  rw [natural64?_eq_some_iff, natural64?_eq_some_iff, numeral_spelled_iff hd hne,
    numeral_spelled_iff hd hne]

end Spelling

/-- A path of two parts is followed one part after the other, and leads to a document exactly when
its segments do so one by one. It is absent exactly when one of them leads to nothing, which is the
only way to fail. At an array neither a plus nor zeros in front make a difference; at an object
segments that differ in any way lead to different members. -/
theorem dig_by_segments :
    (∀ (root : Json) (p q : List String), root.dig (p ++ q) = (root.dig p).bind fun v => v.dig q) ∧
    (∀ (root v : Json) (path : List String), root.dig path = some v ↔ Reaches root path v) ∧
    (∀ (root : Json) (path : List String), root.dig path = none ↔
      ∃ p s q v, path = p ++ s :: q ∧ Reaches root p v ∧ ∀ w, ¬ Enters v s w) ∧
    (∀ (ms : List (String × Json)), Ordered ms → ∀ (name : String) (v : Json),
      Enters (.obj ms) name v ↔ (name, v) ∈ ms) ∧
    (∀ (root : Json) (p q : List String) (xs : List Json), root.dig p = some (.arr xs) →
      ∀ (ds : List Char), Digits ds → ds ≠ [] → ∀ (plus plus' : Bool) (zeros zeros' : Nat),
      root.dig (p ++ spelled plus zeros ds :: q) = root.dig (p ++ spelled plus' zeros' ds :: q)) ∧
    (∀ (root : Json) (p : List String) (ms : List (String × Json)), root.dig p = some (.obj ms) →
      ∀ (s t : String), s ≠ t → ∀ (v w : Json), root.dig (p ++ [s]) = some v →
      root.dig (p ++ [t]) = some w →
      ∃ i k : Nat, i ≠ k ∧ ms[i]? = some (s, v) ∧ ms[k]? = some (t, w)) ∧
    (∀ (s t : String), s ≠ t → ∀ (v w : Json),
      (ofMembers [(s, v), (t, w)]).dig [s] = some v ∧
      (ofMembers [(s, v), (t, w)]).dig [t] = some w) := by
  refine ⟨dig_append, fun _ _ _ => dig_eq_some_iff, fun _ _ => dig_eq_none_iff,
    fun _ h _ _ => enters_obj_iff_mem h, ?_, ?_, ?_⟩
  · intro root p q xs hp ds hd hne plus plus' zeros zeros'
    rw [dig_concat hp, dig_concat hp, step, step, natural64?_spelled hd hne plus plus' zeros zeros']
  · intro root p ms hp s t hst v w hv hw
    obtain ⟨i, hi⟩ := getElem?_of_enters_obj ((dig_snoc_eq_some_iff hp s).mp hv)
    obtain ⟨k, hk⟩ := getElem?_of_enters_obj ((dig_snoc_eq_some_iff hp t).mp hw)
    refine ⟨i, k, ?_, hi, hk⟩
    rintro rfl
    rw [hi] at hk
    exact hst (congrArg Prod.fst (Option.some.inj hk))
  · intro s t hst v w
    have hn : ([(s, v), (t, w)].map Prod.fst).Nodup := by simp [hst]
    rw [dig_ofMembers hn, dig_ofMembers hn]
    exact ⟨by simp, by simp [lookup_cons_eq, hst.symm]⟩

/-- An index; then no text, a sign alone, a minus, a blank, a letter and too great a number. -/
example :
    ["+01", "", "+", "-0", " 1", "0x1", "18446744073709551616"].map
      (fun s => (ofStrings ["a", "b"]).dig [s]) =
    [some (.str "b"), none, none, none, none, none, none] := by
  decide

end Provision.Json
