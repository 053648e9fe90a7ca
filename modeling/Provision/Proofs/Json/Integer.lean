import Mathlib.Data.Rat.Floor
import Mathlib.Tactic.Positivity
import Provision.Json.Path
import Provision.Proofs.Binary64.Shortest
import Provision.Proofs.Json.Range

set_option autoImplicit false

namespace Provision

def towardZero (q : ℚ) : Int := if 0 ≤ q then ⌊q⌋ else ⌈q⌉

theorem towardZero_intCast (n : Int) : towardZero n = n := by
  rw [towardZero, Int.floor_intCast, Int.ceil_intCast, ite_self]

theorem towardZero_neg (q : ℚ) : towardZero (-q) = -towardZero q := by
  rcases lt_trichotomy q 0 with h | rfl | h
  · rw [towardZero, towardZero, if_pos (by linarith), if_neg (by linarith), Int.floor_neg]
  · simp [towardZero]
  · rw [towardZero, towardZero, if_neg (by linarith), if_pos h.le, Int.ceil_neg]

theorem towardZero_mono {p q : ℚ} (h : p ≤ q) : towardZero p ≤ towardZero q := by
  unfold towardZero
  split
  · rename_i hp
    rw [if_pos (hp.trans h)]
    exact Int.floor_mono h
  · rename_i hp
    split
    · rename_i hq
      have hc : ⌈p⌉ ≤ 0 := Int.ceil_le.mpr (by simpa using (not_le.mp hp).le)
      exact hc.trans (Int.floor_nonneg.mpr hq)
    · exact Int.ceil_mono h

namespace Binary64

def magnitude (code : Nat) : ℚ := significand code * 2 ^ exponent code

def toRat (x : Binary64) : ℚ := if x.negative then -magnitude x.code else magnitude x.code

theorem magnitude_eq (code : Nat) : magnitude code = numerator code / denominator code := by
  have hp := zpow_mul_pow_neg (x := (2 : ℚ)) (by norm_num) (exponent code)
  have hd : ((2 : ℚ) ^ (-exponent code).toNat) ≠ 0 := by positivity
  rw [magnitude, numerator, denominator, Nat.pow_eq, Nat.pow_eq]
  push_cast
  rw [eq_div_iff hd, mul_assoc, hp]

theorem truncate_eq (x : Binary64) : x.truncate = towardZero x.toRat := by
  have hm : towardZero (magnitude x.code) = x.integerPart := by
    rw [magnitude_eq, towardZero, if_pos (by positivity), Rat.floor_natCast_div_natCast]
    rfl
  rw [truncate, toRat]
  split
  · rw [towardZero_neg, hm]
  · rw [hm]

end Binary64

namespace Json

def Number.toRat : Number → ℚ
  | .int n => n
  | .float x => x.toRat

theorem Number.truncate_eq (n : Number) : n.truncate = towardZero n.toRat := by
  cases n with
  | int n => exact (towardZero_intCast n).symm
  | float x => exact x.truncate_eq

theorem clamp64_mono {a b : Int} (h : a ≤ b) : clamp64 a ≤ clamp64 b :=
  max_le_max le_rfl (min_le_min h le_rfl)

theorem asInt_of_number {v : Option Json} {n : Number} (hv : v = some (.num n)) (hn : n.InRange) :
    asInt v = clamp64 (towardZero n.toRat) := by
  rw [hv, asInt, n.toInt64_eq hn, n.truncate_eq]

theorem asInt_of_no_number {v : Option Json} (hv : ∀ n, v ≠ some (.num n)) : asInt v = 0 := by
  unfold asInt
  split
  · exact absurd rfl (hv _)
  · rfl

/-- The integer at the end of a path is the exact value of the number there, without its fraction and
kept between `-2 ^ 63` and `2 ^ 63 - 1`. Of two numbers the greater one does not give the smaller
integer. Where there is no number it is zero. A document that was read has numbers in their range
only. -/
theorem asInt_dig :
    (∀ (root : Json) (path : List String) (n : Number),
      root.dig path = some (.num n) → n.InRange →
      asInt (root.dig path) = max (-2 ^ 63) (min (towardZero n.toRat) (2 ^ 63 - 1))) ∧
    (∀ (root root' : Json) (path path' : List String) (n n' : Number),
      root.dig path = some (.num n) → n.InRange →
      root'.dig path' = some (.num n') → n'.InRange → n.toRat ≤ n'.toRat →
      asInt (root.dig path) ≤ asInt (root'.dig path')) ∧
    (∀ (root : Json) (path : List String), (∀ n, root.dig path ≠ some (.num n)) →
      asInt (root.dig path) = 0) ∧
    (∀ (text : String) (root : Json), parse text = some root → ∀ (path : List String) (n : Number),
      root.dig path = some (.num n) → n.InRange) := by
  refine ⟨?_, ?_, ?_, ?_⟩
  · intro root path n hv hn
    exact asInt_of_number hv hn
  · intro root root' path path' n n' hv hn hv' hn' hle
    rw [asInt_of_number hv hn, asInt_of_number hv' hn']
    exact clamp64_mono (towardZero_mono hle)
  · intro root path hv
    exact asInt_of_no_number hv
  · intro text root hr path n hn
    exact inRange_dig hr hn

/-- The ends of the range: `2 ^ 63`, `2 ^ 64 - 1`, `-1e19` and `-2.5`. -/
example :
    [.int 9223372036854775808, .int 18446744073709551615,
      .float ⟨true, 4891288408196988160, by decide⟩, .float ⟨true, 4612811918334230528, by decide⟩].map
      Number.toInt64 =
    [9223372036854775807, 9223372036854775807, -9223372036854775808, -2] := by
  decide

end Json
end Provision
