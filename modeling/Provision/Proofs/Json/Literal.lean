import Provision.Json.Token
import Provision.Proofs.Binary64.Shortest

/-!
The text of a number, followed by the end of a value, is read as a literal that denotes the number:
an integer has neither fraction nor exponent, and the value of a double's literal rounds to it. A
literal denotes one number at most, so the text determines the number and where it ends.
-/

set_option autoImplicit false

namespace Provision.Json

/-- What may follow a value inside a document. -/
def Closes (cs : List Char) : Prop := ∀ c ∈ cs.head?, c = ',' ∨ c = ']' ∨ c = '}'

def NoDigit (cs : List Char) : Prop := ∀ c ∈ cs.head?, c.isDigit = false

theorem closes_nil : Closes [] := fun _ h => nomatch h

theorem closes_cons {c : Char} {cs : List Char} (h : c = ',' ∨ c = ']' ∨ c = '}') :
    Closes (c :: cs) := by
  intro d hd
  cases hd
  exact h

theorem Closes.noDigit {cs : List Char} (h : Closes cs) : NoDigit cs := by
  intro c hc
  rcases h c hc with rfl | rfl | rfl <;> rfl

theorem noDigit_cons {c : Char} {cs : List Char} (h : c.isDigit = false) : NoDigit (c :: cs) := by
  intro d hd
  cases hd
  exact h

def Digits (cs : List Char) : Prop := ∀ c ∈ cs, c.isDigit = true

theorem digits_natText (n : Nat) : Digits (natText n) := fun _ hc =>
  Nat.isDigit_of_mem_toDigits (by decide) (by decide) hc

theorem digits_zeros (n : Nat) : Digits (List.replicate n '0') := by
  intro c hc
  rw [List.eq_of_mem_replicate hc]
  rfl

theorem Digits.append {cs ds : List Char} (hc : Digits cs) (hd : Digits ds) : Digits (cs ++ ds) :=
  fun c h => (List.mem_append.mp h).elim (hc c) (hd c)

/-- Digits before the point: a zero stands alone. -/
structure Whole (cs : List Char) : Prop where
  digits : Digits cs
  lead : cs = ['0'] ∨ ∃ c ds, cs = c :: ds ∧ c ≠ '0'

theorem natText_lead {n : Nat} (h : 0 < n) : ∃ c ds, natText n = c :: ds ∧ c ≠ '0' := by
  induction n using Nat.strongRecOn with
  | ind n ih =>
    by_cases hn : n < 10
    · refine ⟨n.digitChar, [], Nat.toDigits_of_lt_base hn, ?_⟩
      simpa using h.ne'
    · obtain ⟨c, ds, hc, hne⟩ := ih (n / 10) (by omega) (by omega)
      refine ⟨c, ds ++ [(n % 10).digitChar], ?_, hne⟩
      rw [natText, Nat.toDigits_of_base_le (by decide) (by omega)]
      rw [natText] at hc
      rw [hc, List.cons_append]

theorem whole_natText (n : Nat) : Whole (natText n) where
  digits := digits_natText n
  lead := by
    rcases Nat.eq_zero_or_pos n with rfl | h
    · exact .inl rfl
    · exact .inr (natText_lead h)

namespace Token

def values (cs : List Char) : List Nat := cs.map fun c => c.toNat - '0'.toNat

variable {cs ds tail : List Char}

theorem digits_append (hd : Digits ds) (ht : NoDigit tail) :
    digits (ds ++ tail) = values ds ∧ afterDigits (ds ++ tail) = tail := by
  have hw : tail.takeWhile Char.isDigit = [] ∧ tail.dropWhile Char.isDigit = tail := by
    cases tail with
    | nil => exact ⟨rfl, rfl⟩
    | cons c cs => simp [ht c rfl]
  constructor
  · rw [digits, List.takeWhile_append_of_pos hd, hw.1, List.append_nil, values]
  · rw [afterDigits, List.dropWhile_append_of_pos hd, hw.2]

theorem whole?_append (hd : Whole ds) (ht : NoDigit tail) :
    whole? (ds ++ tail) = some (values ds, tail) := by
  obtain ⟨hds, rfl | ⟨c, rest, rfl, hc⟩⟩ := hd
  · rfl
  · obtain ⟨hv, ha⟩ := digits_append hds ht
    rw [List.cons_append] at hv ha ⊢
    unfold whole?
    split
    · rename_i h
      exact absurd (List.cons.inj h).1 hc
    · rw [hv, ha]
      rfl

theorem foldl_values (cs : List Char) :
    (values cs).foldl (fun n d => 10 * n + d) 0 = Nat.ofDigitChars 10 cs 0 := by
  rw [values, List.foldl_map, Nat.ofDigitChars_eq_foldl]

theorem exponentSign_cons (e : Int) (cs : List Char) :
    exponentSign ((if e < 0 then '-' else '+') :: cs) = (decide (e < 0), cs) := by
  by_cases h : e < 0
  · rw [if_pos h, decide_eq_true h]
    rfl
  · rw [if_neg h, decide_eq_false h]
    rfl

def pointText : List Char → List Char
  | [] => []
  | c :: cs => '.' :: c :: cs

def exponentText : Option Int → List Char
  | none => []
  | some e => 'e' :: (if e < 0 then '-' else '+') :: natText e.natAbs

theorem pointText_of_ne_nil (h : ds ≠ []) : pointText ds = '.' :: ds := by
  obtain ⟨c, cs, rfl⟩ := List.exists_cons_of_ne_nil h
  rfl

theorem exponent?_exponentText (e : Option Int) (ht : Closes tail) :
    exponent? (exponentText e ++ tail) = some (e, tail) := by
  cases e with
  | none =>
    cases tail with
    | nil => rfl
    | cons c cs => rcases ht c rfl with rfl | rfl | rfl <;> rfl
  | some e =>
    obtain ⟨hv, ha⟩ := digits_append (digits_natText e.natAbs) ht.noDigit
    have hz : (values (natText e.natAbs)).isEmpty = false := by simp [values, natText]
    have hn : (values (natText e.natAbs)).foldl (fun n d => 10 * n + d) 0 = e.natAbs := by
      rw [foldl_values]
      exact Nat.ofDigitChars_ten_toDigits
    have hs : (if e < 0 then -(e.natAbs : Int) else e.natAbs) = e := by omega
    simp [exponentText, exponent?, exponentSign_cons, hv, ha, hn, hz, hs, -Nat.cast_natAbs]

theorem exponentText_head (e : Option Int) (ht : Closes tail) :
    ∀ c ∈ (exponentText e ++ tail).head?, c.isDigit = false ∧ c ≠ '.' := by
  intro c hc
  cases e with
  | none => rcases ht c hc with rfl | rfl | rfl <;> decide
  | some e =>
    cases hc
    decide

theorem fraction?_pointText (hd : Digits ds) (ht : ∀ c ∈ tail.head?, c.isDigit = false ∧ c ≠ '.') :
    fraction? (pointText ds ++ tail) = some (values ds, tail) := by
  cases ds with
  | nil =>
    cases tail with
    | nil => rfl
    | cons c cs =>
      rw [pointText, List.nil_append]
      unfold fraction?
      split
      · rename_i h
        exact absurd (List.cons.inj h).1 (ht c rfl).2
      · rfl
  | cons d ds =>
    obtain ⟨hv, ha⟩ := digits_append hd fun c hc => (ht c hc).1
    change fraction? ('.' :: (d :: ds ++ tail)) = some (values (d :: ds), tail)
    simp only [fraction?, hv, ha, values, List.map_cons, List.isEmpty_cons, Bool.false_eq_true,
      if_false]

theorem literal?_parts {negative : Bool} {w f : List Char} (hw : Whole w) (hf : Digits f)
    (e : Option Int) (ht : Closes tail) :
    literal? negative (w ++ (pointText f ++ (exponentText e ++ tail))) =
      some (⟨negative, values w, values f, e⟩, tail) := by
  have he := exponentText_head e ht
  have hp : NoDigit (pointText f ++ (exponentText e ++ tail)) := by
    cases f with
    | nil => exact fun c hc => (he c hc).1
    | cons d f => exact noDigit_cons rfl
  simp only [literal?, whole?_append hw hp, fraction?_pointText hf he, exponent?_exponentText e ht,
    Option.bind_eq_bind, Option.bind_some]

end Token

def Literal.magnitude (l : Literal) : ℚ :=
  ((l.whole ++ l.fraction).foldl (fun n d => 10 * n + d) 0 : Nat) *
    10 ^ (l.exponent.getD 0 - l.fraction.length)

theorem magnitude_mk (negative : Bool) (w f : List Char) (e : Option Int) :
    (Literal.mk negative (Token.values w) (Token.values f) e).magnitude =
      (Nat.ofDigitChars 10 (w ++ f) 0 : ℚ) * 10 ^ (e.getD 0 - f.length) := by
  have hv : Token.values w ++ Token.values f = Token.values (w ++ f) := by
    simp [Token.values]
  have hl : (Token.values f).length = f.length := by simp [Token.values]
  simp only [Literal.magnitude, hv, hl, Token.foldl_values]

/-- What a literal says about a number: an integer exactly, a double up to rounding. -/
def Literal.Denotes (l : Literal) : Number → Prop
  | .int n => (l.fraction = [] ∧ l.exponent = none) ∧ l.negative = decide (n < 0) ∧
      l.whole.foldl (fun n d => 10 * n + d) 0 = n.natAbs
  | .float x => ¬ (l.fraction = [] ∧ l.exponent = none) ∧ l.negative = x.negative ∧
      Binary64.Rounds x.code l.magnitude

theorem Literal.Denotes.unique {l : Literal} {m n : Number} (hm : l.Denotes m) (hn : l.Denotes n) :
    m = n := by
  cases m with
  | int i =>
    cases n with
    | int j =>
      obtain ⟨-, hs, hv⟩ := hm
      obtain ⟨-, hs', hv'⟩ := hn
      have hlt : i < 0 ↔ j < 0 := decide_eq_decide.mp (hs.symm.trans hs')
      exact congrArg Number.int (by omega)
    | float y => exact absurd hm.1 hn.1
  | float x =>
    cases n with
    | int j => exact absurd hn.1 hm.1
    | float y =>
      obtain ⟨-, hs, hr⟩ := hm
      obtain ⟨-, hs', hr'⟩ := hn
      have hc := hr.unique hr'
      obtain ⟨sx, cx, hx⟩ := x
      obtain ⟨sy, cy, hy⟩ := y
      simp only at hs hs' hc
      simp only [Number.float.injEq, Binary64.mk.injEq]
      exact ⟨hs.symm.trans hs', hc⟩

open Token (pointText exponentText values literal?_parts pointText_of_ne_nil)

/-- The text is a fraction or has an exponent, and its parts have this value. -/
def Spells (cs : List Char) (v : ℚ) : Prop :=
  ∃ w f e, cs = w ++ (pointText f ++ exponentText e) ∧ Whole w ∧ Digits f ∧ ¬ (f = [] ∧ e = none) ∧
    (Nat.ofDigitChars 10 (w ++ f) 0 : ℚ) * 10 ^ (e.getD 0 - f.length) = v

section Layouts

variable {c : Char} {ds : List Char} {n : Nat} (hc : c ≠ '0') (hd : Digits (c :: ds))
  (hn : Nat.ofDigitChars 10 (c :: ds) 0 = n)

include hc hd hn

theorem spells_zeros (k : Nat) :
    Spells (c :: ds ++ List.replicate k '0' ++ ['.', '0']) (n * 10 ^ (k : ℤ)) := by
  refine ⟨c :: ds ++ List.replicate k '0', ['0'], none, rfl,
    ⟨hd.append (digits_zeros k), .inr ⟨c, _, rfl, hc⟩⟩, digits_zeros 1, by simp, ?_⟩
  have hv : Nat.ofDigitChars 10 (c :: ds ++ List.replicate k '0' ++ ['0']) 0 = 10 * (10 ^ k * n) := by
    rw [Nat.ofDigitChars_append, Nat.ofDigitChars_append, hn, Nat.ofDigitChars_replicate_zero]
    rfl
  rw [hv, zpow_natCast]
  push_cast
  norm_num
  ring

theorem spells_point {j : Nat} (hj : j < ds.length) :
    Spells ((c :: ds).take (j + 1) ++ '.' :: (c :: ds).drop (j + 1))
      (n * 10 ^ (j - ds.length : ℤ)) := by
  have hf : (c :: ds).drop (j + 1) ≠ [] := by simpa using hj
  have hl : (0 - ((c :: ds).drop (j + 1)).length : ℤ) = j - ds.length := by
    rw [List.length_drop, List.length_cons]
    omega
  refine ⟨(c :: ds).take (j + 1), (c :: ds).drop (j + 1), none, ?_, ⟨?_, .inr ⟨c, _, rfl, hc⟩⟩,
    ?_, fun h => hf h.1, ?_⟩
  · rw [pointText_of_ne_nil hf, exponentText, List.append_nil]
  · exact fun x hx => hd x (List.mem_of_mem_take hx)
  · exact fun x hx => hd x (List.mem_of_mem_drop hx)
  · rw [List.take_append_drop, hn, Option.getD_none, hl]

omit hc in
theorem spells_fraction (k : Nat) :
    Spells (['0', '.'] ++ List.replicate k '0' ++ c :: ds) (n * 10 ^ (-(k + ds.length + 1) : ℤ)) := by
  have hf : List.replicate k '0' ++ c :: ds ≠ [] := by simp
  have hl : (0 - (List.replicate k '0' ++ c :: ds).length : ℤ) = -(k + ds.length + 1) := by
    rw [List.length_append, List.length_replicate, List.length_cons]
    omega
  have hv : Nat.ofDigitChars 10 (['0'] ++ (List.replicate k '0' ++ c :: ds)) 0 = n := by
    rw [Nat.ofDigitChars_append, Nat.ofDigitChars_append, Nat.ofDigitChars_replicate_zero]
    exact hn
  refine ⟨['0'], List.replicate k '0' ++ c :: ds, none, ?_, ⟨digits_zeros 1, .inl rfl⟩,
    (digits_zeros k).append hd, by simp, ?_⟩
  · simp [pointText_of_ne_nil hf, exponentText]
  · rw [hv, Option.getD_none, hl]

theorem spells_scientific (e : ℤ) :
    Spells (c :: pointText ds ++ exponentText (some e)) (n * 10 ^ (e - ds.length)) := by
  obtain ⟨hc', hds⟩ := List.forall_mem_cons.mp hd
  have hw : Digits [c] := by simpa [Digits] using hc'
  refine ⟨[c], ds, some e, rfl, ⟨hw, .inr ⟨c, [], rfl, hc⟩⟩, hds, by simp, ?_⟩
  rw [List.singleton_append, hn, Option.getD_some]

end Layouts

theorem spells_decimalText {d : Binary64.Decimal} (hd : 0 < d.digits) :
    Spells (decimalText d) d.value := by
  obtain ⟨c, ds, hds, hc⟩ := natText_lead hd
  have hdig : Digits (c :: ds) := hds ▸ digits_natText d.digits
  have hn : Nat.ofDigitChars 10 (c :: ds) 0 = d.digits := hds ▸ Nat.ofDigitChars_ten_toDigits
  have he : ((c :: ds).length - 1 + d.scale : ℤ) = ds.length + d.scale := by
    rw [List.length_cons]
    omega
  simp only [decimalText, hds, he, Binary64.Decimal.value]
  split
  · split
    · rename_i hs
      have h := spells_zeros hc hdig hn d.scale.toNat
      rwa [Int.toNat_of_nonneg hs] at h
    · split
      · rename_i hs hp
        have h := spells_point hc hdig hn (j := (ds.length + d.scale : ℤ).toNat) (by omega)
        rwa [Int.toNat_of_nonneg hp, add_sub_cancel_left] at h
      · rename_i hs hp
        have h := spells_fraction hdig hn (-(ds.length + d.scale : ℤ) - 1).toNat
        rwa [Int.toNat_of_nonneg (by omega), show
          -(-(ds.length + d.scale) - 1 + ds.length + 1) = d.scale by ring] at h
  · have h := spells_scientific hc hdig hn (ds.length + d.scale)
    rw [add_sub_cancel_left] at h
    cases ds <;> exact h

theorem literal?_spells {cs : List Char} {v : ℚ} (h : Spells cs v) (negative : Bool)
    {tail : List Char} (ht : Closes tail) :
    ∃ l, Token.literal? negative (cs ++ tail) = some (l, tail) ∧
      l.negative = negative ∧ ¬ (l.fraction = [] ∧ l.exponent = none) ∧ l.magnitude = v := by
  obtain ⟨w, f, e, rfl, hw, hf, hne, hv⟩ := h
  refine ⟨⟨negative, values w, values f, e⟩, ?_, rfl, ?_, ?_⟩
  · rw [List.append_assoc, List.append_assoc]
    exact literal?_parts hw hf e ht
  · simpa [values] using hne
  · rw [magnitude_mk, hv]

def signed? : List Char → Option (Literal × List Char)
  | '-' :: cs => Token.literal? true cs
  | cs => Token.literal? false cs

theorem signed?_append {negative : Bool} {cs : List Char} {r : Literal × List Char}
    (h : Token.literal? negative cs = some r) :
    signed? ((if negative then ['-'] else []) ++ cs) = some r := by
  cases negative with
  | true => exact h
  | false =>
    rw [if_neg Bool.false_ne_true, List.nil_append]
    unfold signed?
    split
    · cases h
    · exact h

theorem intText_eq (n : Int) :
    intText n = (if decide (n < 0) then ['-'] else []) ++ natText n.natAbs := by
  by_cases h : n < 0 <;> simp [intText, h]

theorem signed?_intText (n : Int) {tail : List Char} (ht : Closes tail) :
    ∃ l, signed? (intText n ++ tail) = some (l, tail) ∧ l.Denotes (.int n) := by
  have hv : (values (natText n.natAbs)).foldl (fun n d => 10 * n + d) 0 = n.natAbs := by
    rw [Token.foldl_values]
    exact Nat.ofDigitChars_ten_toDigits
  have hl : Token.literal? (decide (n < 0)) (natText n.natAbs ++ tail) =
      some (⟨decide (n < 0), values (natText n.natAbs), [], none⟩, tail) :=
    literal?_parts (f := []) (whole_natText _) (fun _ h => nomatch h) none ht
  refine ⟨⟨decide (n < 0), values (natText n.natAbs), [], none⟩, ?_, ⟨rfl, rfl⟩, rfl, hv⟩
  rw [intText_eq, List.append_assoc]
  exact signed?_append hl

theorem spells_zero : Spells ['0', '.', '0'] 0 :=
  ⟨['0'], ['0'], none, rfl, ⟨digits_zeros 1, .inl rfl⟩, digits_zeros 1, by simp, by
    simp [Nat.ofDigitChars]⟩

theorem exists_spells_floatText (x : Binary64) :
    ∃ cs v, floatText x = (if x.negative then ['-'] else []) ++ cs ∧ Spells cs v ∧
      Binary64.Rounds x.code v := by
  rcases Nat.eq_zero_or_pos x.code with hz | hp
  · refine ⟨['0', '.', '0'], 0, ?_, spells_zero, hz ▸ Binary64.rounds_zero⟩
    rw [floatText, hz]
    rfl
  · obtain ⟨d, hd⟩ := Binary64.exists_shortest? hp
    refine ⟨decimalText d, d.value, ?_,
      spells_decimalText (Binary64.digits_pos_of_shortest? hd), Binary64.rounds_of_shortest? hd⟩
    rw [floatText, hd]

theorem signed?_floatText (x : Binary64) {tail : List Char} (ht : Closes tail) :
    ∃ l, signed? (floatText x ++ tail) = some (l, tail) ∧ l.Denotes (.float x) := by
  obtain ⟨cs, v, htext, hv, hr⟩ := exists_spells_floatText x
  obtain ⟨l, hl, hn, hne, hm⟩ := literal?_spells hv x.negative ht
  refine ⟨l, ?_, hne, hn, hm ▸ hr⟩
  rw [htext, List.append_assoc]
  exact signed?_append hl

namespace Number

variable {m n : Number} {x y : List Char}

theorem signed?_text (n : Number) (hx : Closes x) :
    ∃ l, signed? (n.text ++ x) = some (l, x) ∧ l.Denotes n := by
  cases n with
  | int n => exact signed?_intText n hx
  | float x => exact signed?_floatText x hx

theorem text_append_inj (hx : Closes x) (hy : Closes y) (h : m.text ++ x = n.text ++ y) :
    m = n ∧ x = y := by
  obtain ⟨l, hl, hm⟩ := m.signed?_text hx
  obtain ⟨k, hk, hn⟩ := n.signed?_text hy
  rw [h, hk] at hl
  obtain ⟨rfl, rfl⟩ := Prod.mk.inj (Option.some.inj hl)
  exact ⟨hm.unique hn, rfl⟩

end Number
end Provision.Json
