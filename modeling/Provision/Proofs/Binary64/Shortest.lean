import Mathlib.Algebra.Order.Field.Power
import Mathlib.Tactic.Linarith
import Mathlib.Tactic.Ring
import Provision.Binary64.Shortest

/-!
The numbers that round to a code make an interval, and neighbouring intervals meet in an end that
only the even code keeps. So no number rounds to two codes. Every positive code has a shortest
decimal, and that decimal rounds to it.
-/

set_option autoImplicit false

namespace Provision.Binary64

def Decimal.value (d : Decimal) : ℚ := d.digits * 10 ^ d.scale

def quarter (code : Nat) : ℚ := 2 ^ (exponent code - 2)

def lower (code : Nat) : ℚ := (interval code).low * quarter code

def upper (code : Nat) : ℚ := (interval code).high * quarter code

def Rounds (code : Nat) (x : ℚ) : Prop :=
  if (interval code).closed then lower code ≤ x ∧ x ≤ upper code
  else lower code < x ∧ x < upper code

theorem quarter_pos (code : Nat) : 0 < quarter code := zpow_pos (by norm_num) _

theorem interval_closed_iff (code : Nat) : (interval code).closed = true ↔ code % 2 = 0 := by
  simp only [interval, significand, beq_iff_eq]
  split <;> (unfold binade at *; omega)

theorem interval_low_lt (code : Nat) (h : 0 < code) :
    0 < (interval code).low ∧ (interval code).low < (interval code).middle := by
  simp only [interval, significand]
  split <;> split <;> (unfold binade at *; omega)

theorem interval_low_le (code : Nat) : (interval code).low ≤ (interval code).middle := by
  simp only [interval]
  split <;> omega

theorem interval_middle_lt (code : Nat) : (interval code).middle < (interval code).high := by
  simp only [interval]
  omega

/-- The last place doubles at a power of two. -/
theorem interval_succ (code : Nat) :
    (exponent (code + 1) = exponent code ∧ (interval (code + 1)).low = (interval code).high) ∨
    (exponent (code + 1) = exponent code + 1 ∧
      2 * (interval (code + 1)).low = (interval code).high) := by
  simp only [interval, exponent, significand]
  repeat' split
  all_goals
    unfold binade at *
    omega

theorem lower_succ (code : Nat) : lower (code + 1) = upper code := by
  rcases interval_succ code with ⟨he, hl⟩ | ⟨he, hl⟩
  · rw [lower, upper, quarter, quarter, he, hl]
  · have hq : quarter (code + 1) = quarter code * 2 := by
      rw [quarter, quarter, he, add_sub_right_comm, zpow_add_one₀ (by norm_num)]
    have hh : ((interval code).high : ℚ) = 2 * (interval (code + 1)).low := by
      rw [← hl, Nat.cast_mul, Nat.cast_ofNat]
    rw [lower, upper, hq, hh]
    ring

theorem lower_lt_upper (code : Nat) : lower code < upper code := by
  have h : (interval code).low < (interval code).high :=
    (interval_low_le code).trans_lt (interval_middle_lt code)
  exact mul_lt_mul_of_pos_right (Nat.cast_lt.mpr h) (quarter_pos code)

theorem strictMono_lower : StrictMono lower :=
  strictMono_nat_of_lt_succ fun code => lower_succ code ▸ lower_lt_upper code

namespace Rounds

variable {c d : Nat} {x : ℚ}

theorem le (h : Rounds c x) : lower c ≤ x ∧ x ≤ upper c := by
  unfold Rounds at h
  split at h
  · exact h
  · exact ⟨h.1.le, h.2.le⟩

theorem closed_of_eq (h : Rounds c x) (he : x = lower c ∨ x = upper c) :
    (interval c).closed = true := by
  unfold Rounds at h
  split at h
  · assumption
  · rcases he with rfl | rfl
    · exact absurd h.1 (lt_irrefl _)
    · exact absurd h.2 (lt_irrefl _)

theorem not_lt (hc : Rounds c x) (hd : Rounds d x) : ¬ c < d := by
  intro hlt
  have hle : upper c ≤ lower d := lower_succ c ▸ strictMono_lower.monotone hlt
  -- the number is the one end that both intervals can have
  have hxc : x = upper c := le_antisymm hc.le.2 (hle.trans hd.le.1)
  have hxd : x = lower d := le_antisymm (hc.le.2.trans hle) hd.le.1
  have hs : c + 1 = d := strictMono_lower.injective (by rw [lower_succ, ← hxc, hxd])
  have hec := (interval_closed_iff c).mp (hc.closed_of_eq (.inr hxc))
  have hed := (interval_closed_iff d).mp (hd.closed_of_eq (.inl hxd))
  omega

theorem unique (hc : Rounds c x) (hd : Rounds d x) : c = d := by
  have h1 := hc.not_lt hd
  have h2 := hd.not_lt hc
  omega

end Rounds

theorem rounds_zero : Rounds 0 0 := by
  have hl : lower 0 = 0 := by simp [lower, interval, significand, binade]
  have hc : (interval 0).closed = true := (interval_closed_iff 0).mpr rfl
  rw [Rounds, if_pos hc, hl]
  exact ⟨le_refl 0, hl ▸ (lower_lt_upper 0).le⟩

theorem zpow_mul_pow_neg {x : ℚ} (hx : x ≠ 0) (z : ℤ) : x ^ z * x ^ (-z).toNat = x ^ z.toNat := by
  rw [← zpow_natCast, ← zpow_natCast, ← zpow_add₀ hx]
  congr 1
  omega

theorem units_eq (q g : ℤ) : ∃ t : ℚ, 0 < t ∧
    ((Nat.pow 2 q.toNat * Nat.pow 10 (-g).toNat : Nat) : ℚ) = t * 2 ^ q ∧
    ((Nat.pow 2 (-q).toNat * Nat.pow 10 g.toNat : Nat) : ℚ) = t * 10 ^ g := by
  refine ⟨2 ^ (-q).toNat * 10 ^ (-g).toNat, by positivity, ?_, ?_⟩
  · have h := zpow_mul_pow_neg (x := 2) (by norm_num) q
    simp only [Nat.pow_eq, Nat.cast_mul, Nat.cast_pow, Nat.cast_ofNat, ← h]
    ring
  · have h := zpow_mul_pow_neg (x := 10) (by norm_num) g
    simp only [Nat.pow_eq, Nat.cast_mul, Nat.cast_pow, Nat.cast_ofNat, ← h]
    ring

theorem holds_iff_rounds (code d : Nat) (g : ℤ) :
    (interval code).holds (Nat.pow 2 (exponent code - 2).toNat * Nat.pow 10 (-g).toNat)
      (Nat.pow 2 (-(exponent code - 2)).toNat * Nat.pow 10 g.toNat) d = true ↔
    Rounds code (d * 10 ^ g) := by
  obtain ⟨t, ht, ha, hb⟩ := units_eq (exponent code - 2) g
  generalize Nat.pow 2 (exponent code - 2).toNat * Nat.pow 10 (-g).toNat = a at ha ⊢
  generalize Nat.pow 2 (-(exponent code - 2)).toNat * Nat.pow 10 g.toNat = b at hb ⊢
  have hq (n : Nat) : ((n * a : Nat) : ℚ) = t * (n * quarter code) := by
    rw [Nat.cast_mul, ha, quarter]
    ring
  have hd : ((d * b : Nat) : ℚ) = t * (d * 10 ^ g) := by
    rw [Nat.cast_mul, hb]
    ring
  have hle (x y : ℚ) : t * x ≤ t * y ↔ x ≤ y := mul_le_mul_iff_right₀ ht
  have hlt (x y : ℚ) : t * x < t * y ↔ x < y := mul_lt_mul_iff_right₀ ht
  unfold Interval.holds Rounds
  split
  · simp only [Bool.and_eq_true, decide_eq_true_eq, ← Nat.cast_le (α := ℚ), hq, hd, hle, lower,
      upper]
  · simp only [Bool.and_eq_true, decide_eq_true_eq, ← Nat.cast_lt (α := ℚ), hq, hd, hlt, lower,
      upper]

theorem rounds_of_onGrid? {code d : Nat} {g : ℤ} (h : onGrid? code g = some d) :
    Rounds code (d * 10 ^ g) := by
  rw [← holds_iff_rounds]
  simp only [onGrid?, Bool.and_eq_true] at h
  split at h
  · rename_i hb
    split at h <;> cases h
    · exact hb.1
    · exact hb.2
  · split at h
    · cases h
      assumption
    · split at h
      · cases h
        assumption
      · cases h

theorem rounds_of_shortest? {code : Nat} {d : Decimal} (h : shortest? code = some d) :
    Rounds code d.value := by
  unfold shortest? at h
  split at h
  · cases h
  · obtain ⟨g, -, hg⟩ := List.exists_of_findSome?_eq_some h
    obtain ⟨n, hn, rfl⟩ := Option.map_eq_some_iff.mp hg
    exact rounds_of_onGrid? hn

theorem digits_pos_of_shortest? {code : Nat} {d : Decimal} (h : shortest? code = some d) :
    0 < d.digits := by
  have hr := rounds_of_shortest? h
  have hc : 0 < code := by
    rcases Nat.eq_zero_or_pos code with rfl | hc
    · cases h
    · exact hc
  have hl : 0 < lower code :=
    mul_pos (Nat.cast_pos.mpr (interval_low_lt code hc).1) (quarter_pos code)
  refine Nat.pos_of_ne_zero fun hz => ?_
  have hv : d.value = 0 := by simp [Decimal.value, hz]
  exact absurd (hv ▸ hr.le.1) hl.not_ge

/-- The multiple below the number is nearer than the lower end when the grid is finer than a quarter
of the last place. -/
theorem holds_below {code a b : Nat} (h : 0 < code) (hb : 0 < b) (hab : b < a) :
    (interval code).holds a b ((interval code).middle * a / b) = true := by
  have hl := (interval_low_lt code h).2
  have hh := interval_middle_lt code
  generalize (interval code).middle = m at hl hh ⊢
  have hlow : (interval code).low * a + a ≤ m * a :=
    (Nat.succ_mul _ a).ge.trans (Nat.mul_le_mul_right a hl)
  have hhigh : m * a < (interval code).high * a := Nat.mul_lt_mul_of_pos_right hh (by omega)
  have hdiv : m * a / b * b + m * a % b = m * a := Nat.div_add_mod' (m * a) b
  have hmod : m * a % b < b := Nat.mod_lt _ hb
  unfold Interval.holds
  split
  · simp only [Bool.and_eq_true, decide_eq_true_eq]
    omega
  · simp only [Bool.and_eq_true, decide_eq_true_eq]
    omega

theorem two_pow_lt_ten_pow {n : Nat} (h : n ≤ 1076) :
    Nat.pow 2 n < Nat.pow 10 (-(-324 : ℤ)).toNat := by
  have hk (m : Nat) (hm : m = 1076) : Nat.pow 2 m < Nat.pow 10 (-(-324 : ℤ)).toNat := by
    subst hm
    decide +kernel
  obtain ⟨j, hj⟩ := Nat.exists_eq_add_of_le h
  exact (Nat.pow_le_pow_right (by decide) (Nat.le_add_right n j)).trans_lt (hk _ hj.symm)

theorem exists_onGrid?_finest {code : Nat} (h : 0 < code) : ∃ d, onGrid? code (-324) = some d := by
  have he : -1074 ≤ exponent code := by
    unfold exponent
    split <;> (unfold binade at *; omega)
  have hg : Nat.pow 10 (-324 : ℤ).toNat = 1 := rfl
  simp only [onGrid?, hg, Nat.mul_one]
  generalize ha : Nat.pow 2 (exponent code - 2).toNat * Nat.pow 10 (-(-324 : ℤ)).toNat = a
  generalize hb : Nat.pow 2 (-(exponent code - 2)).toNat = b
  have hb0 : 0 < b := hb ▸ Nat.pow_pos (by decide)
  have hba : b < a := by
    calc b = Nat.pow 2 (-(exponent code - 2)).toNat := hb.symm
      _ < Nat.pow 10 (-(-324 : ℤ)).toNat := two_pow_lt_ten_pow (by omega)
      _ ≤ a := ha ▸ Nat.le_mul_of_pos_left _ (Nat.pow_pos (by decide))
  simp only [holds_below h hb0 hba, Bool.true_and, if_true]
  split
  · split <;> exact ⟨_, rfl⟩
  · exact ⟨_, rfl⟩

theorem exists_shortest? {code : Nat} (h : 0 < code) : ∃ d, shortest? code = some d := by
  obtain ⟨n, hn⟩ := exists_onGrid?_finest h
  have hg : (-324 : ℤ) ∈ grids := List.mem_map.mpr ⟨632, by simp, rfl⟩
  have hs : (shortest? code).isSome := by
    rw [shortest?, if_neg (by omega), List.findSome?_isSome_iff]
    exact ⟨-324, hg, by simp [hn]⟩
  exact Option.isSome_iff_exists.mp hs

end Provision.Binary64
