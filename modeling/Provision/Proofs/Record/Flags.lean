import Mathlib.Data.List.Nodup
import Provision.Proofs.Record.Values

/-!
Two records have the same flags exactly when each field has the same text in both. The names of the
fields differ and hold no `=`, so the flags give each text back under its name.
-/

set_option autoImplicit false

namespace Provision

variable {ρ : Type}

def Field.text? (f : Field ρ) (r : ρ) : Option String :=
  (f.encode r).bind fun v => if v.isZero then none else Variables.textOf? v

namespace Record

/-- The names of a table tell its fields apart, and can be cut off at an `=`. -/
structure Named (fs : List (Field ρ)) : Prop where
  nodup : (fs.map Field.name).Nodup
  no_equals : ∀ f ∈ fs, '=' ∉ f.name.toList

theorem mem_membersOf {r : ρ} {fs : List (Field ρ)} {k : String} {v : Json} :
    (k, v) ∈ membersOf r fs ↔ ∃ f ∈ fs, f.name = k ∧ f.encode r = some v := by
  induction fs with
  | nil => simp [membersOf]
  | cons f fs ih =>
    simp only [membersOf, List.exists_mem_cons_iff, ← ih]
    cases hf : f.encode r with
    | none => simp
    | some w => simp [eq_comm]

theorem membersOf_names_sublist (r : ρ) (fs : List (Field ρ)) :
    ((membersOf r fs).map Prod.fst).Sublist (fs.map Field.name) := by
  induction fs with
  | nil => exact .slnil
  | cons f fs ih =>
    simp only [membersOf]
    split
    · exact ih.cons_cons f.name
    · exact ih.cons f.name

def setFields (r : ρ) (fs : List (Field ρ)) : List (String × String) :=
  Variables.fieldsOf (sortMembers (membersOf r fs))

theorem ordered_setFields (r : ρ) (fs : List (Field ρ)) : Ordered (setFields r fs) :=
  Variables.ordered_fieldsOf _

theorem mem_setFields {r : ρ} {fs : List (Field ρ)} (hn : Named fs) {k t : String} :
    (k, t) ∈ setFields r fs ↔ ∃ f ∈ fs, f.name = k ∧ f.text? r = some t := by
  have hm : ((membersOf r fs).map Prod.fst).Nodup :=
    (membersOf_names_sublist r fs).nodup hn.nodup
  have hs : ((sortMembers (membersOf r fs)).map Prod.fst).Nodup :=
    (ordered_sortMembers _).nodup_names
  simp only [setFields, Variables.mem_fieldsOf hs, (sortMembers_perm hm).mem_iff, mem_membersOf]
  constructor
  · rintro ⟨v, ⟨f, hf, hk, hv⟩, hz, ht⟩
    exact ⟨f, hf, hk, by simp [Field.text?, hv, hz, ht]⟩
  · rintro ⟨f, hf, hk, ht⟩
    obtain ⟨v, hv, ht⟩ := Option.bind_eq_some_iff.mp ht
    split at ht
    · cases ht
    · exact ⟨v, ⟨f, hf, hk, hv⟩, by simp_all, ht⟩

theorem no_equals_of_mem_setFields {r : ρ} {fs : List (Field ρ)} (hn : Named fs) :
    ∀ p ∈ setFields r fs, '=' ∉ p.1.toList := by
  intro p hp
  obtain ⟨f, hf, hk, -⟩ := (mem_setFields hn).mp hp
  exact hk ▸ hn.no_equals f hf

theorem text?_eq_some_iff {r : ρ} {fs : List (Field ρ)} (hn : Named fs) {f : Field ρ} (hf : f ∈ fs)
    {t : String} : f.text? r = some t ↔ (f.name, t) ∈ setFields r fs := by
  rw [mem_setFields hn]
  constructor
  · exact fun ht => ⟨f, hf, rfl, ht⟩
  · rintro ⟨g, hg, hk, ht⟩
    rwa [List.inj_on_of_nodup_map hn.nodup hg hf hk] at ht

theorem cut?_setFields {r : ρ} {fs : List (Field ρ)} (hn : Named fs) :
    Variables.cut? ((setFields r fs).flatMap Variables.pair) = some (setFields r fs) :=
  Variables.cut?_pairs (no_equals_of_mem_setFields hn)

theorem encode_document_eq_iff [Record ρ] (hn : Named (fields (ρ := ρ))) (a b : ρ) :
    Variables.encode (document a) = Variables.encode (document b) ↔
      ∀ f ∈ fields (ρ := ρ), f.text? a = f.text? b := by
  have he (r : ρ) : Variables.encode (document r) =
      .ok ((setFields r fields).flatMap Variables.pair) := Variables.encode_obj _
  rw [he, he, Except.ok.injEq]
  constructor
  · intro h f hf
    have hc := congrArg Variables.cut? h
    rw [cut?_setFields hn, cut?_setFields hn, Option.some.injEq] at hc
    refine Option.ext fun t => ?_
    rw [text?_eq_some_iff hn hf, text?_eq_some_iff hn hf, hc]
  · intro h
    have hs : setFields a fields = setFields b fields := by
      refine (ordered_setFields a _).eq_of_mem_iff (ordered_setFields b _) ?_
      rintro ⟨k, t⟩
      rw [mem_setFields hn, mem_setFields hn]
      exact exists_congr fun f => and_congr_right fun hf => by rw [h f hf]
    rw [hs]

def present {α : Type} [Encode α] (o : Option α) : Option α := o.filter fun v => !(encode v).isZero

theorem present_eq_some_iff {α : Type} [Encode α] {o : Option α} {v : α} :
    present o = some v ↔ o = some v ∧ (encode v).isZero = false := by
  rw [present, Option.filter_eq_some_iff, Bool.not_eq_true']

theorem text?_optional {α : Type} [Encode α] [Decode α] (name : String) (get : ρ → Option α)
    (set : Option α → ρ → ρ) (r : ρ) :
    (Field.optional name get set).text? r =
      (present (get r)).bind fun v => Variables.textOf? (encode v) := by
  cases h : get r with
  | none => simp [Field.text?, Field.optional, present, h]
  | some v =>
    cases hz : (encode v).isZero <;>
      simp [Field.text?, Field.optional, present, h, hz, Option.filter_some]

theorem text?_optional_eq_iff {α : Type} [Encode α] [Decode α] [Faithful α] (name : String)
    (get : ρ → Option α) (set : Option α → ρ → ρ) (a b : ρ) :
    (Field.optional name get set).text? a = (Field.optional name get set).text? b ↔
      present (get a) = present (get b) := by
  rw [text?_optional, text?_optional]
  refine ⟨fun h => ?_, fun h => by rw [h]⟩
  have htext {v : α} (hz : (encode v).isZero = false) : Variables.textOf? (encode v) ≠ none := by
    obtain ⟨t, ht⟩ := Variables.textOf?_of_not_isZero (v := encode v) (by simp [hz])
    simp [ht]
  cases hx : present (get a) with
  | none =>
    cases hy : present (get b) with
    | none => rfl
    | some w =>
      rw [hx, hy] at h
      exact absurd h.symm (htext (present_eq_some_iff.mp hy).2)
  | some v =>
    have hv := (present_eq_some_iff.mp hx).2
    cases hy : present (get b) with
    | none =>
      rw [hx, hy] at h
      exact absurd h (htext hv)
    | some w =>
      rw [hx, hy] at h
      exact congrArg some (Faithful.textOf?_inj hv (present_eq_some_iff.mp hy).2 h)

end Record
end Provision
