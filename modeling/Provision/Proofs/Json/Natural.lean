import Provision.Json.Path
import Provision.Proofs.Json.Literal

set_option autoImplicit false

namespace Provision.Json

inductive Numeral : List Char → Nat → Prop
  | digits {ds : List Char} (h : Digits ds) (hne : ds ≠ []) :
    Numeral ds (Nat.ofDigitChars 10 ds 0)
  | plus {ds : List Char} (h : Digits ds) (hne : ds ≠ []) :
    Numeral ('+' :: ds) (Nat.ofDigitChars 10 ds 0)

theorem decimalValue_eq (ds : List Char) : decimalValue ds = Nat.ofDigitChars 10 ds 0 := by
  rw [decimalValue, Nat.ofDigitChars_eq_foldl]

theorem afterPlus_of_digits {ds : List Char} (h : Digits ds) : afterPlus ds = ds := by
  unfold afterPlus
  split
  · exact absurd (h '+' List.mem_cons_self) (by decide)
  · rfl

theorem eq_or_eq_plus (cs : List Char) : cs = afterPlus cs ∨ cs = '+' :: afterPlus cs := by
  unfold afterPlus
  split
  · exact .inr rfl
  · exact .inl rfl

theorem numeral_iff {cs : List Char} {n : Nat} : Numeral cs n ↔
    Digits (afterPlus cs) ∧ afterPlus cs ≠ [] ∧ decimalValue (afterPlus cs) = n := by
  constructor
  · intro h
    cases h with
    | digits h hne =>
      rw [afterPlus_of_digits h]
      exact ⟨h, hne, decimalValue_eq _⟩
    | plus h hne => exact ⟨h, hne, decimalValue_eq _⟩
  · rintro ⟨h, hne, rfl⟩
    rw [decimalValue_eq]
    rcases eq_or_eq_plus cs with he | he
    · generalize afterPlus cs = ds at *
      subst he
      exact .digits h hne
    · generalize afterPlus cs = ds at *
      subst he
      exact .plus h hne

theorem natural64?_eq_some_iff {s : String} {n : Nat} :
    natural64? s = some n ↔ Numeral s.toList n ∧ n < 2 ^ 64 := by
  have hr : ((afterPlus s.toList).isEmpty || !(afterPlus s.toList).all Char.isDigit) = true ↔
      ¬ (Digits (afterPlus s.toList) ∧ afterPlus s.toList ≠ []) := by
    rw [Digits, ← List.all_eq_true]
    cases (afterPlus s.toList).all Char.isDigit <;> simp
  simp only [natural64?, numeral_iff, ← and_assoc]
  by_cases h : Digits (afterPlus s.toList) ∧ afterPlus s.toList ≠ []
  · rw [if_neg (mt hr.mp (not_not_intro h))]
    simp only [Option.ite_none_right_eq_some, Option.some.injEq]
    constructor
    · rintro ⟨hlt, rfl⟩
      exact ⟨⟨h, rfl⟩, hlt⟩
    · rintro ⟨⟨-, rfl⟩, hlt⟩
      exact ⟨hlt, rfl⟩
  · rw [if_pos (hr.mpr h)]
    simp [h]

end Provision.Json
