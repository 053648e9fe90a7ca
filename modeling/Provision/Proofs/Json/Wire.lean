import Provision.Json.Printer
import Provision.Proofs.Json.Literal

set_option autoImplicit false

namespace Provision.Json

namespace Token

theorem hexDigit?_hexChar (n : Nat) : Text.hexDigit? (hexChar n) = some (n % 16) := by
  have h : ∀ k < 16, Text.hexDigit? (Nat.digitChar k) = some k := by decide
  exact h (n % 16) (Nat.mod_lt n (by decide))

theorem hex4?_hexChar {n : Nat} (h : n < 0x100) :
    hex4? '0' '0' (hexChar (n / 16)) (hexChar n) = some n := by
  have h0 : Text.hexDigit? '0' = some 0 := rfl
  simp only [hex4?, h0, hexDigit?_hexChar, Option.bind_eq_bind, Option.bind_some, Option.some.injEq]
  omega

theorem pieces?_cons {c : Char} (hq : c ≠ '"') (hb : c ≠ '\\') (hc : ¬ c.toNat < 0x20)
    (cs : List Char) :
    pieces? (c :: cs) = (pieces? cs).map fun (ps, r) => (.char c :: ps, r) := by
  rw [pieces?.eq_def]
  split <;> simp_all [Option.map_eq_bind]

theorem pieces?_short {e c : Char} (h : shortEscape? e = some c) (cs : List Char) :
    pieces? ('\\' :: e :: cs) = (pieces? cs).map fun (ps, r) => (.char c :: ps, r) := by
  have hu : e ≠ 'u' := by
    rintro rfl
    cases h
  rw [pieces?]
  · simp [h, Option.map_eq_bind]
  · exact fun _ _ _ _ _ he => absurd he hu

theorem pieces?_code {n : Nat} (h : n < 0x100) (cs : List Char) :
    pieces? ('\\' :: 'u' :: '0' :: '0' :: hexChar (n / 16) :: hexChar n :: cs) =
      (pieces? cs).map fun (ps, r) => (.code n :: ps, r) := by
  simp [pieces?, hex4?_hexChar h, Option.map_eq_bind]

theorem text?_code {n : Nat} (h : n < 0x20) (ps : List Piece) :
    text? (.code n :: ps) = (text? ps).map (Char.ofNat n :: ·) := by
  have hh : isHigh n = false := by simp [isHigh]; omega
  have hl : isLow n = false := by simp [isLow]; omega
  cases ps with
  | nil => simp [text?, hh, hl]
  | cons p ps => cases p <;> simp [text?, hh, hl]

theorem exists_piece_escape (c : Char) : ∃ p : Piece,
    (∀ cs, pieces? (escape c ++ cs) = (pieces? cs).map fun (ps, r) => (p :: ps, r)) ∧
    ∀ ps, text? (p :: ps) = (text? ps).map (c :: ·) := by
  have hc (ps : List Piece) : text? (.char c :: ps) = (text? ps).map (c :: ·) := by rw [text?]
  unfold escape
  iterate 7
    split
    · subst_vars
      exact ⟨.char _, pieces?_short rfl, hc⟩
  split
  · rename_i hlow
    refine ⟨.code c.toNat, pieces?_code (by omega), fun ps => ?_⟩
    rw [text?_code hlow, Char.ofNat_toNat]
  · exact ⟨.char c, pieces?_cons ‹_› ‹_› ‹_›, hc⟩

def string? : List Char → Option (String × List Char)
  | '"' :: cs => do
    let (ps, r) ← pieces? cs
    let t ← text? ps
    some (String.ofList t, r)
  | _ => none

theorem exists_pieces (cs tail : List Char) :
    ∃ ps, pieces? (cs.flatMap escape ++ '"' :: tail) = some (ps, tail) ∧ text? ps = some cs := by
  induction cs with
  | nil => exact ⟨[], by simp [pieces?], rfl⟩
  | cons c cs ih =>
    obtain ⟨ps, hps, hts⟩ := ih
    obtain ⟨p, hp, ht⟩ := exists_piece_escape c
    refine ⟨p :: ps, ?_, ?_⟩
    · rw [List.flatMap_cons, List.append_assoc, hp, hps, Option.map_some]
    · rw [ht, hts, Option.map_some]

theorem string?_quoted (s : String) (tail : List Char) :
    string? (quoted s ++ tail) = some (s, tail) := by
  obtain ⟨ps, hps, hts⟩ := exists_pieces s.toList tail
  simp [string?, quoted, hps, hts]

end Token

theorem quoted_append_inj {s t : String} {x y : List Char} (h : quoted s ++ x = quoted t ++ y) :
    s = t ∧ x = y := by
  have hr := congrArg Token.string? h
  rw [Token.string?_quoted, Token.string?_quoted] at hr
  exact Prod.mk.inj (Option.some.inj hr)

def kindOfHead? (c : Char) : Option String :=
  if c = 'n' then some "null"
  else if c = 't' ∨ c = 'f' then some "a boolean"
  else if c = '-' ∨ c.isDigit = true then some "a number"
  else if c = '"' then some "a string"
  else if c = '[' then some "an array"
  else if c = '{' then some "an object"
  else none

theorem kindOfHead?_of_isDigit {c : Char} (h : c.isDigit = true) :
    kindOfHead? c = some "a number" := by
  have hn : c ≠ 'n' ∧ c ≠ 't' ∧ c ≠ 'f' := by
    refine ⟨?_, ?_, ?_⟩ <;> (rintro rfl; cases h)
  simp [kindOfHead?, hn, h]

theorem Token.whole?_head {cs : List Char} {r : List Nat × List Char} (h : whole? cs = some r) :
    ∃ c ds, cs = c :: ds ∧ c.isDigit = true := by
  unfold whole? at h
  split at h
  · exact ⟨'0', _, rfl, rfl⟩
  · cases cs with
    | nil => simp [digits] at h
    | cons c ds =>
      refine ⟨c, ds, rfl, Decidable.byContradiction fun hc => ?_⟩
      simp [digits, hc] at h

theorem Number.text_head (n : Number) :
    ∃ c cs, n.text = c :: cs ∧ kindOfHead? c = some "a number" := by
  obtain ⟨l, hl, -⟩ := n.signed?_text closes_nil
  rw [List.append_nil] at hl
  unfold signed? at hl
  split at hl
  · exact ⟨'-', _, ‹_›, rfl⟩
  · obtain ⟨w, hw, -⟩ := Option.bind_eq_some_iff.mp hl
    obtain ⟨c, ds, hc, hd⟩ := Token.whole?_head hw
    exact ⟨c, ds, hc, kindOfHead?_of_isDigit hd⟩

theorem wire_head (j : Json) :
    ∃ c cs, wire j = c :: cs ∧ kindOfHead? c = some j.kindText := by
  cases j with
  | num n => exact n.text_head
  | bool b => cases b <;> exact ⟨_, _, rfl, rfl⟩
  | _ => exact ⟨_, _, rfl, rfl⟩

theorem kindText_of_wire {a b : Json} {x y : List Char} (h : wire a ++ x = wire b ++ y) :
    a.kindText = b.kindText := by
  obtain ⟨c, cs, hc, hkc⟩ := wire_head a
  obtain ⟨d, ds, hd, hkd⟩ := wire_head b
  rw [hc, hd] at h
  rw [(List.cons.inj h).1, hkd] at hkc
  exact (Option.some.inj hkc).symm

def itemsTail : List Json → List Char
  | [] => []
  | b :: bs => ',' :: wireItems (b :: bs)

def membersTail : List (String × Json) → List Char
  | [] => []
  | m :: ms => ',' :: wireMembers (m :: ms)

theorem wireItems_cons (a : Json) (as : List Json) :
    wireItems (a :: as) = wire a ++ itemsTail as := by
  cases as <;> simp [wireItems, itemsTail]

theorem wireMembers_cons (k : String) (a : Json) (ms : List (String × Json)) :
    wireMembers ((k, a) :: ms) = quoted k ++ (':' :: (wire a ++ membersTail ms)) := by
  cases ms <;> simp [wireMembers, membersTail]

theorem closes_itemsTail (as : List Json) (x : List Char) : Closes (itemsTail as ++ ']' :: x) := by
  cases as with
  | nil => exact closes_cons (.inr (.inl rfl))
  | cons a as => exact closes_cons (.inl rfl)

theorem closes_membersTail (ms : List (String × Json)) (x : List Char) :
    Closes (membersTail ms ++ '}' :: x) := by
  cases ms with
  | nil => exact closes_cons (.inr (.inr rfl))
  | cons m ms => exact closes_cons (.inl rfl)

theorem wire_append_ne {c : Char} (hc : kindOfHead? c = none) (j : Json) (x y : List Char) :
    wire j ++ x ≠ c :: y := by
  obtain ⟨d, ds, hd, hk⟩ := wire_head j
  rw [hd]
  rintro h
  rw [(List.cons.inj h).1, hc] at hk
  cases hk

-- The recursion is the printer's. Documents of two kinds start with different characters; the tails
-- of two containers are compared once their first items agree.
mutual
theorem wire_append_inj : ∀ (a b : Json) {x y : List Char}, Closes x → Closes y →
    wire a ++ x = wire b ++ y → a = b ∧ x = y
  | .null, b, x, y, _, _, h => by
    have hk := kindText_of_wire h
    cases b with
    | null => exact ⟨rfl, List.append_cancel_left h⟩
    | _ => simp [kindText] at hk
  | .bool a, b, x, y, _, _, h => by
    have hk := kindText_of_wire h
    cases b with
    | bool b => cases a <;> cases b <;> simp_all [wire]
    | _ => simp [kindText] at hk
  | .num a, b, x, y, hx, hy, h => by
    have hk := kindText_of_wire h
    cases b with
    | num b =>
      obtain ⟨hab, hxy⟩ := Number.text_append_inj hx hy h
      exact ⟨congrArg num hab, hxy⟩
    | _ => simp [kindText] at hk
  | .str a, b, x, y, _, _, h => by
    have hk := kindText_of_wire h
    cases b with
    | str b =>
      obtain ⟨hab, hxy⟩ := quoted_append_inj h
      exact ⟨congrArg str hab, hxy⟩
    | _ => simp [kindText] at hk
  | .arr as, b, x, y, _, _, h => by
    have hk := kindText_of_wire h
    cases b with
    | arr bs =>
      simp only [wire, List.cons_append, List.append_assoc, List.nil_append, List.cons.injEq,
        true_and] at h
      obtain ⟨hab, hxy⟩ := wireItems_append_inj as bs h
      exact ⟨congrArg arr hab, hxy⟩
    | _ => simp [kindText] at hk
  | .obj ms, b, x, y, _, _, h => by
    have hk := kindText_of_wire h
    cases b with
    | obj ns =>
      simp only [wire, List.cons_append, List.append_assoc, List.nil_append, List.cons.injEq,
        true_and] at h
      obtain ⟨hab, hxy⟩ := wireMembers_append_inj ms ns h
      exact ⟨congrArg obj hab, hxy⟩
    | _ => simp [kindText] at hk
theorem wireItems_append_inj : ∀ (as bs : List Json) {x y : List Char},
    wireItems as ++ ']' :: x = wireItems bs ++ ']' :: y → as = bs ∧ x = y
  | [], [], _, _, h => ⟨rfl, (List.cons.inj h).2⟩
  | [], b :: bs, _, _, h => by
    rw [wireItems_cons, List.append_assoc] at h
    exact absurd h.symm (wire_append_ne rfl b _ _)
  | a :: as, [], _, _, h => by
    rw [wireItems_cons, List.append_assoc] at h
    exact absurd h (wire_append_ne rfl a _ _)
  | a :: as, b :: bs, x, y, h => by
    rw [wireItems_cons, wireItems_cons, List.append_assoc, List.append_assoc] at h
    obtain ⟨rfl, ht⟩ := wire_append_inj a b (closes_itemsTail as x) (closes_itemsTail bs y) h
    match as, bs, ht with
    | [], [], ht => exact ⟨rfl, (List.cons.inj ht).2⟩
    | [], _ :: _, ht => cases ht
    | _ :: _, [], ht => cases ht
    | a' :: as, b' :: bs, ht =>
      obtain ⟨hs, hxy⟩ := wireItems_append_inj (a' :: as) (b' :: bs) (List.cons.inj ht).2
      exact ⟨congrArg (a :: ·) hs, hxy⟩
theorem wireMembers_append_inj : ∀ (ms ns : List (String × Json)) {x y : List Char},
    wireMembers ms ++ '}' :: x = wireMembers ns ++ '}' :: y → ms = ns ∧ x = y
  | [], [], _, _, h => ⟨rfl, (List.cons.inj h).2⟩
  | [], (k, a) :: ns, _, _, h => by
    rw [wireMembers_cons] at h
    cases h
  | (k, a) :: ms, [], _, _, h => by
    rw [wireMembers_cons] at h
    cases h
  | (k, a) :: ms, (l, b) :: ns, x, y, h => by
    rw [wireMembers_cons, wireMembers_cons, List.append_assoc, List.append_assoc] at h
    obtain ⟨rfl, hm⟩ := quoted_append_inj h
    simp only [List.cons_append, List.append_assoc, List.cons.injEq, true_and] at hm
    obtain ⟨rfl, ht⟩ := wire_append_inj a b (closes_membersTail ms x) (closes_membersTail ns y) hm
    match ms, ns, ht with
    | [], [], ht => exact ⟨rfl, (List.cons.inj ht).2⟩
    | [], _ :: _, ht => cases ht
    | _ :: _, [], ht => cases ht
    | m :: ms, n :: ns, ht =>
      obtain ⟨hs, hxy⟩ := wireMembers_append_inj (m :: ms) (n :: ns) (List.cons.inj ht).2
      exact ⟨congrArg ((k, a) :: ·) hs, hxy⟩
end

theorem compact_injective {a b : Json} (h : a.compact = b.compact) : a = b := by
  have hw : wire a ++ [] = wire b ++ [] := by simpa using String.ofList_inj.mp h
  exact (wire_append_inj a b closes_nil closes_nil hw).1

end Provision.Json
