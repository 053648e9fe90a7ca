import Provision.Names
import Provision.Text.Hexadecimal

set_option autoImplicit false

namespace Provision.Names

namespace Supply

variable (s : Supply)

def digit (k : Nat) : Char :=
  (s (k / chunkLength)).digits.get ⟨k % chunkLength, by
    rw [Chunk.length_digits]
    exact Nat.mod_lt k (by decide)⟩

def row (n : Nat) : List Char := (List.range n).map s.digit

@[simp] theorem length_row (n : Nat) : (s.row n).length = n := by simp [row]

theorem take_row {n m : Nat} (h : n ≤ m) : (s.row m).take n = s.row n := by
  rw [row, ← List.map_take, List.take_range, Nat.min_eq_left h, row]

theorem isLowerHex_of_mem_row {n : Nat} {c : Char} (h : c ∈ s.row n) : isLowerHex c = true := by
  obtain ⟨k, -, rfl⟩ := List.mem_map.mp h
  exact List.all_eq_true.mp (s (k / chunkLength)).isLowerHex_digits _ (List.get_mem _ _)

theorem row_append_digits (i : Nat) :
    s.row (chunkLength * i) ++ (s i).digits = s.row (chunkLength * (i + 1)) := by
  have hd : (List.range chunkLength).map (fun k => s.digit (chunkLength * i + k)) =
      (s i).digits := by
    refine List.ext_getElem (by simp [Chunk.length_digits]) fun k hk hk' => ?_
    have hlt : k < chunkLength := by simpa using hk
    have hq : (chunkLength * i + k) / chunkLength = i := by
      rw [Nat.mul_add_div (by decide), Nat.div_eq_of_lt hlt, Nat.add_zero]
    have hr : (chunkLength * i + k) % chunkLength = k := by
      rw [Nat.mul_add_mod, Nat.mod_eq_of_lt hlt]
    simp only [List.getElem_map, List.getElem_range, digit, List.get_eq_getElem, hq, hr]
  rw [row, row, Nat.mul_succ, List.range_add, List.map_append, List.map_map, ← hd]
  rfl

/-- Drawing stops at the first chunk that completes `n` digits. -/
theorem draw_row (n i : Nat) : draw s n i (s.row (chunkLength * i)) =
    s.row (chunkLength * max i ((n + 31) / chunkLength)) := by
  rw [draw, length_row]
  split
  · rename_i h
    rw [row_append_digits, draw_row n (i + 1)]
    congr 2
    simp only [chunkLength] at h ⊢
    omega
  · rename_i h
    congr 2
    simp only [chunkLength] at h ⊢
    omega
termination_by n - chunkLength * i
decreasing_by
  rename_i h
  simp only [chunkLength] at h ⊢
  omega

theorem draw_eq (n : Nat) : draw s n 0 [] = s.row (chunkLength * ((n + 31) / chunkLength)) := by
  have h := s.draw_row n 0
  rwa [Nat.mul_zero, Nat.zero_max] at h

theorem take_draw (n : Nat) : (draw s n 0 []).take n = s.row n := by
  rw [draw_eq]
  apply take_row
  simp only [chunkLength]
  omega

end Supply

structure Cased (c : Char) : Prop where
  isAlpha_toUpper : c.toUpper.isAlpha = c.isAlpha
  isUpper_toUpper : c.toUpper.isUpper = c.isAlpha
  isUpper_self : c.isUpper = false
  toLower_toUpper : c.toUpper.toLower = c
  toLower_self : c.toLower = c
  isHex_toUpper : (Text.hexDigit? c.toUpper).isSome = true
  isHex_self : (Text.hexDigit? c).isSome = true

theorem cased_of_isLowerHex {c : Char} (h : isLowerHex c = true) : Cased c := by
  have hlt : c.toNat < 103 := by
    simp only [isLowerHex, Char.isDigit, Bool.or_eq_true, Bool.and_eq_true, decide_eq_true_eq,
      Char.le_def, ge_iff_le, UInt32.le_iff_toNat_le] at h
    change c.val.toNat < 103
    rcases h with ⟨-, h⟩ | ⟨-, h⟩
    · exact Nat.lt_of_le_of_lt h (by decide)
    · exact Nat.lt_of_le_of_lt h (by decide)
  have all : ∀ n : Fin 103, let d := Char.ofNat n
      isLowerHex d = true → d.toUpper.isAlpha = d.isAlpha ∧ d.toUpper.isUpper = d.isAlpha ∧
        d.isUpper = false ∧ d.toUpper.toLower = d ∧ d.toLower = d ∧
        (Text.hexDigit? d.toUpper).isSome = true ∧ (Text.hexDigit? d).isSome = true := by
    decide
  have hc := all ⟨c.toNat, hlt⟩
  simp only [Char.ofNat_toNat] at hc
  obtain ⟨h1, h2, h3, h4, h5, h6, h7⟩ := hc h
  exact ⟨h1, h2, h3, h4, h5, h6, h7⟩

def letters (cs : List Char) : List Char := cs.filter Char.isAlpha

def InTurn : Bool → List Char → Prop
  | _, [] => True
  | upper, c :: cs => c.isUpper = upper ∧ InTurn (!upper) cs

section Alternate

variable {cs : List Char}

theorem inTurn_alternate (h : ∀ c ∈ cs, isLowerHex c = true) (upper : Bool) :
    InTurn upper (letters (alternate upper cs)) := by
  induction cs generalizing upper with
  | nil => exact trivial
  | cons c cs ih =>
    obtain ⟨hc, hcs⟩ := List.forall_mem_cons.mp h
    have hk := cased_of_isLowerHex hc
    by_cases ha : c.isAlpha = true
    · cases upper with
      | true =>
        have hu : c.toUpper.isAlpha = true := hk.isAlpha_toUpper.trans ha
        have hi : c.toUpper.isUpper = true := hk.isUpper_toUpper.trans ha
        simpa [alternate, letters, ha, hu, InTurn, hi] using ih hcs false
      | false => simpa [alternate, letters, ha, InTurn, hk.isUpper_self] using ih hcs true
    · simpa [alternate, letters, ha] using ih hcs upper

theorem map_toLower_alternate (h : ∀ c ∈ cs, isLowerHex c = true) (upper : Bool) :
    (alternate upper cs).map Char.toLower = cs := by
  induction cs generalizing upper with
  | nil => rfl
  | cons c cs ih =>
    obtain ⟨hc, hcs⟩ := List.forall_mem_cons.mp h
    have hk := cased_of_isLowerHex hc
    by_cases ha : c.isAlpha = true
    · cases upper <;> simp [alternate, ha, hk.toLower_toUpper, hk.toLower_self, ih hcs]
    · simp [alternate, ha, hk.toLower_self, ih hcs]

theorem length_alternate (upper : Bool) : (alternate upper cs).length = cs.length := by
  induction cs generalizing upper with
  | nil => rfl
  | cons c cs ih => by_cases ha : c.isAlpha = true <;> simp [alternate, ha, ih]

theorem isHex_alternate (h : ∀ c ∈ cs, isLowerHex c = true) (upper : Bool) :
    ∀ d ∈ alternate upper cs, (Text.hexDigit? d).isSome = true := by
  induction cs generalizing upper with
  | nil => simp [alternate]
  | cons c cs ih =>
    obtain ⟨hc, hcs⟩ := List.forall_mem_cons.mp h
    have hk := cased_of_isLowerHex hc
    by_cases ha : c.isAlpha = true
    · rw [alternate, if_pos ha, List.forall_mem_cons]
      refine ⟨?_, ih hcs _⟩
      cases upper with
      | true => exact hk.isHex_toUpper
      | false => exact hk.isHex_self
    · rw [alternate, if_neg ha, List.forall_mem_cons]
      exact ⟨hk.isHex_self, ih hcs _⟩

theorem any_isUpper_alternate (h : ∀ c ∈ cs, isLowerHex c = true) :
    (alternate true cs).any Char.isUpper = cs.any Char.isAlpha := by
  induction cs with
  | nil => rfl
  | cons c cs ih =>
    obtain ⟨hc, hcs⟩ := List.forall_mem_cons.mp h
    have hk := cased_of_isLowerHex hc
    by_cases ha : c.isAlpha = true
    · simp [alternate, ha, hk.isUpper_toUpper]
    · simp [alternate, ha, hk.isUpper_self, ih hcs]

theorem alternate_of_no_letter (h : cs.any Char.isAlpha = false) (upper : Bool) :
    alternate upper cs = cs := by
  induction cs with
  | nil => rfl
  | cons c cs ih =>
    simp only [List.any_cons, Bool.or_eq_false_iff] at h
    simp [alternate, h.1, ih h.2]

end Alternate

theorem withUpper_eq (cs : List Char) :
    withUpper cs = if cs.any Char.isUpper then cs else cs.set 0 'A' := by
  cases cs <;> rfl

theorem toList_secret (s : Supply) (n : Nat) : (secret s n).toList =
    if (s.row n).any Char.isAlpha then alternate true (s.row n) else (s.row n).set 0 'A' := by
  rw [secret, String.toList_ofList, s.take_draw, withUpper_eq,
    any_isUpper_alternate fun _ hc => s.isLowerHex_of_mem_row hc]
  split
  · rfl
  · rename_i h
    rw [alternate_of_no_letter (Bool.eq_false_iff.mpr h)]

theorem inTurn_set {cs : List Char} (h : cs.any Char.isAlpha = false) :
    InTurn true (letters (cs.set 0 'A')) := by
  cases cs with
  | nil => exact trivial
  | cons c cs =>
    rw [List.any_cons, Bool.or_eq_false_iff] at h
    have hcs : cs.filter Char.isAlpha = [] :=
      List.filter_eq_nil_iff.mpr fun c hc => by simpa using List.any_eq_false.mp h.2 c hc
    rw [List.set_cons_zero, letters, List.filter_cons_of_pos rfl, hcs]
    exact ⟨rfl, trivial⟩

/-- A random text takes as many chunks as complete `n` digits. It is the row of those digits with
its letters in upper and lower case in turn, or, if there is no letter among them, with an upper-case
letter in the first place. -/
theorem secret_of_supply (s : Supply) (n : Nat) :
    let row := s.row n
    let cs := (secret s n).toList
    draw s n 0 [] = s.row (chunkLength * ((n + 31) / chunkLength)) ∧
    cs.length = n ∧
    (∀ c ∈ cs, (Text.hexDigit? c).isSome = true) ∧
    InTurn true (letters cs) ∧
    (0 < n → ∃ c ∈ cs, c.isUpper = true) ∧
    ((∃ c ∈ row, c.isAlpha = true) → cs.map Char.toLower = row) ∧
    ((∀ c ∈ row, c.isAlpha = false) → cs = row.set 0 'A') := by
  intro row cs
  have hrow : ∀ c ∈ row, isLowerHex c = true := fun _ hc => s.isLowerHex_of_mem_row hc
  have hcs : cs = if row.any Char.isAlpha then alternate true row else row.set 0 'A' :=
    toList_secret s n
  have hn : row.length = n := s.length_row n
  refine ⟨s.draw_eq n, ?_⟩
  by_cases ha : row.any Char.isAlpha = true
  · rw [if_pos ha] at hcs
    have hu : cs.any Char.isUpper = true := by rw [hcs, any_isUpper_alternate hrow, ha]
    refine ⟨?_, ?_, ?_, fun _ => List.any_eq_true.mp hu, fun _ => ?_, fun hno => ?_⟩
    · rw [hcs, length_alternate, hn]
    · rw [hcs]
      exact isHex_alternate hrow true
    · rw [hcs]
      exact inTurn_alternate hrow true
    · rw [hcs]
      exact map_toLower_alternate hrow true
    · obtain ⟨c, hc, hl⟩ := List.any_eq_true.mp ha
      simp [hno c hc] at hl
  · have hno : row.any Char.isAlpha = false := Bool.eq_false_iff.mpr ha
    rw [if_neg ha] at hcs
    refine ⟨by rw [hcs, List.length_set, hn], fun c hc => ?_, ?_, fun hpos => ?_, ?_, fun _ => hcs⟩
    · rw [hcs] at hc
      rcases List.mem_or_eq_of_mem_set hc with hc | rfl
      · exact (cased_of_isLowerHex (hrow c hc)).isHex_self
      · rfl
    · rw [hcs]
      exact inTurn_set hno
    · exact ⟨'A', hcs ▸ List.mem_set (by rwa [hn]) 'A', rfl⟩
    · rintro ⟨c, hc, hl⟩
      exact absurd (List.any_eq_true.mpr ⟨c, hc, hl⟩) ha

example : secret (fun _ => .ofNat 0) 3 = "A00" ∧
    secret (fun _ => .ofNat 0xfa1bc) 34 = "000000000000000000000000000Fa1Bc00" := by
  cbv

end Provision.Names
