import Provision.Template

/-!
A template that can be filled in is a row of texts and placeholders, and has only one form as such.
One that cannot is such a row up to the first placeholder that is no good. The loop that fills in
makes one turn for each placeholder.
-/

set_option autoImplicit false

namespace Provision.Template

structure Leads (c : Char) (cs : List Char) : Prop where
  no_pair : ¬ [c, c] <:+: cs
  open_end : cs.getLast? ≠ some c

section Pair

variable {c a : Char} {cs before after : List Char}

theorem pair_infix_cons_iff : [c, c] <:+: a :: cs ↔ (a = c ∧ cs.head? = some c) ∨ [c, c] <:+: cs := by
  rw [List.infix_cons_iff, List.cons_prefix_cons]
  cases cs with
  | nil => simp
  | cons b cs => simp [eq_comm]

theorem leads_nil : Leads c [] where
  no_pair := by simp
  open_end := by simp

theorem leads_cons_iff :
    Leads c (a :: cs) ↔ ¬ (a = c ∧ (cs ++ [c]).head? = some c) ∧ Leads c cs := by
  cases cs with
  | nil =>
    constructor
    · intro h
      have ha := h.open_end
      exact ⟨by simpa using ha, leads_nil⟩
    · rintro ⟨ha, -⟩
      exact ⟨by simp [pair_infix_cons_iff], by simpa using ha⟩
  | cons b cs =>
    constructor
    · intro h
      have hp := h.no_pair
      have he := h.open_end
      rw [pair_infix_cons_iff, not_or] at hp
      exact ⟨by simpa using hp.1, hp.2, by simpa using he⟩
    · rintro ⟨ha, hb⟩
      have hp := hb.no_pair
      have he := hb.open_end
      exact ⟨by rw [pair_infix_cons_iff, not_or]; exact ⟨by simpa using ha, hp⟩, by simpa using he⟩

theorem splitAtPair_cons : splitAtPair c (a :: cs) =
    if a = c ∧ cs.head? = some c then some ([], cs.tail)
    else (splitAtPair c cs).map fun (before, after) => (a :: before, after) := by
  cases cs <;> simp [splitAtPair]

theorem splitAtPair_eq_none_iff : splitAtPair c cs = none ↔ ¬ [c, c] <:+: cs := by
  induction cs with
  | nil => simp [splitAtPair]
  | cons a cs ih =>
    rw [splitAtPair_cons, pair_infix_cons_iff, not_or, ← ih]
    by_cases h : a = c ∧ cs.head? = some c <;> simp [h]

theorem splitAtPair_append (h : Leads c before) (after : List Char) :
    splitAtPair c (before ++ c :: c :: after) = some (before, after) := by
  induction before with
  | nil => simp [splitAtPair]
  | cons a before ih =>
    obtain ⟨ha, hb⟩ := leads_cons_iff.mp h
    have hh : (before ++ c :: c :: after).head? = (before ++ [c]).head? := by cases before <;> rfl
    rw [List.cons_append, splitAtPair_cons, hh, if_neg ha, ih hb]
    rfl

theorem leads_of_splitAtPair (h : splitAtPair c cs = some (before, after)) :
    cs = before ++ c :: c :: after ∧ Leads c before := by
  induction cs generalizing before with
  | nil => simp [splitAtPair] at h
  | cons a cs ih =>
    rw [splitAtPair_cons] at h
    by_cases hp : a = c ∧ cs.head? = some c
    · rw [if_pos hp, Option.some.injEq, Prod.mk.injEq] at h
      obtain ⟨rfl, rfl⟩ := h
      obtain ⟨rfl, hh⟩ := hp
      obtain ⟨after, rfl⟩ := List.head?_eq_some_iff.mp hh
      exact ⟨rfl, leads_nil⟩
    · rw [if_neg hp] at h
      obtain ⟨⟨x, y⟩, hs, he⟩ := Option.map_eq_some_iff.mp h
      obtain ⟨rfl, rfl⟩ := Prod.mk.inj he
      obtain ⟨rfl, hx⟩ := ih hs
      have hh : (x ++ c :: c :: y).head? = (x ++ [c]).head? := by cases x <;> rfl
      exact ⟨rfl, leads_cons_iff.mpr ⟨by rwa [← hh], hx⟩⟩

end Pair

structure Piece where
  before : List Char
  inner : List Char
  value : List Char

def Piece.source (p : Piece) : List Char := p.before ++ '{' :: '{' :: (p.inner ++ ['}', '}'])

def Piece.filled (p : Piece) : List Char := p.before ++ p.value

variable {vars : List (String × String)}

/-- Without its blanks the placeholder is a point and a key, whose first entry has the value. -/
def Names (vars : List (String × String)) (inner value : List Char) : Prop :=
  ∃ key earlier later, Text.trim inner = '.' :: key ∧
    vars = earlier ++ (String.ofList key, String.ofList value) :: later ∧
    ∀ m ∈ earlier, m.1 ≠ String.ofList key

structure Piece.Fits (vars : List (String × String)) (p : Piece) : Prop where
  before_leads : Leads '{' p.before
  inner_leads : Leads '}' p.inner
  names : Names vars p.inner p.value

/-- What is wrong with a placeholder, by the text behind its opening braces. -/
inductive Offence (vars : List (String × String)) : List Char → Error → Prop
  | unterminated {tail : List Char} : ¬ ['}', '}'] <:+: tail → Offence vars tail .unterminated
  | noPoint {inner : List Char} (rest : List Char) : Leads '}' inner →
    (∀ key, Text.trim inner ≠ '.' :: key) →
    Offence vars (inner ++ '}' :: '}' :: rest) (.noPoint (Text.trim inner))
  | noValue {inner key : List Char} (rest : List Char) : Leads '}' inner →
    Text.trim inner = '.' :: key → (∀ m ∈ vars, m.1 ≠ String.ofList key) →
    Offence vars (inner ++ '}' :: '}' :: rest) (.noValue key)

theorem entry_eq_some_iff {k v : String} : vars.lookup k = some v ↔
    ∃ earlier later, vars = earlier ++ (k, v) :: later ∧ ∀ m ∈ earlier, m.1 ≠ k := by
  simp only [List.lookup_eq_some_iff, bne_iff_ne, ne_comm]

theorem entry_eq_none_iff {k : String} : vars.lookup k = none ↔ ∀ m ∈ vars, m.1 ≠ k := by
  simp only [List.lookup_eq_none_iff, bne_iff_ne, ne_comm]

theorem valueOf_of_names {inner value : List Char} (h : Names vars inner value) :
    valueOf vars inner = .ok value := by
  obtain ⟨key, earlier, later, hk, hv, he⟩ := h
  have hl : vars.lookup (String.ofList key) = some (String.ofList value) :=
    entry_eq_some_iff.mpr ⟨earlier, later, hv, he⟩
  simp [valueOf, hk, hl]

theorem names_of_valueOf {inner value : List Char} (h : valueOf vars inner = .ok value) :
    Names vars inner value := by
  unfold valueOf at h
  split at h
  · rename_i key hk
    split at h
    · rename_i v hl
      obtain rfl := Except.ok.inj h
      obtain ⟨earlier, later, hv, he⟩ := entry_eq_some_iff.mp hl
      exact ⟨key, earlier, later, hk, by rwa [String.ofList_toList], he⟩
    · cases h
  · cases h

theorem offence_of_valueOf {inner : List Char} {e : Error} (hi : Leads '}' inner)
    (h : valueOf vars inner = .error e) (rest : List Char) :
    Offence vars (inner ++ '}' :: '}' :: rest) e := by
  unfold valueOf at h
  split at h
  · rename_i key hk
    split at h
    · cases h
    · rename_i hl
      obtain rfl := Except.error.inj h
      exact .noValue rest hi hk (entry_eq_none_iff.mp hl)
  · rename_i hk
    obtain rfl := Except.error.inj h
    exact .noPoint rest hi fun key => hk key

inductive Turn where
  | last
  | filled (p : Piece) (rest : List Char)
  | refused (e : Error)

def turn (vars : List (String × String)) (cs : List Char) : Turn :=
  match splitAtPair '{' cs with
  | none => .last
  | some (before, after) =>
    match splitAtPair '}' after with
    | none => .refused .unterminated
    | some (inner, rest) =>
      match valueOf vars inner with
      | .error e => .refused e
      | .ok value => .filled ⟨before, inner, value⟩ rest

theorem fill_eq (cs : List Char) : fill vars cs =
    match turn vars cs with
    | .last => .ok cs
    | .filled p rest => (fill vars rest).map (p.filled ++ ·)
    | .refused e => .error e := by
  rw [fill, turn]
  split
  · simp_all
  · split
    · simp_all
    · split
      · simp_all
      · split <;> simp_all [Except.map, Piece.filled]

section Turn

variable {cs before rest tail : List Char} {p : Piece} {e : Error}

theorem turn_of_no_pair (h : ¬ ['{', '{'] <:+: cs) : turn vars cs = .last := by
  rw [turn, splitAtPair_eq_none_iff.mpr h]

theorem turn_source (h : p.Fits vars) (rest : List Char) :
    turn vars (p.source ++ rest) = .filled p rest := by
  have ho : splitAtPair '{' (p.source ++ rest) = some (p.before, p.inner ++ '}' :: '}' :: rest) := by
    rw [Piece.source]
    simpa using splitAtPair_append h.before_leads (p.inner ++ '}' :: '}' :: rest)
  have hc := splitAtPair_append h.inner_leads rest
  simp [turn, ho, hc, valueOf_of_names h.names]

theorem turn_of_offence (hb : Leads '{' before) (h : Offence vars tail e) :
    turn vars (before ++ '{' :: '{' :: tail) = .refused e := by
  have ho := splitAtPair_append hb tail
  cases h with
  | unterminated ht => simp [turn, ho, splitAtPair_eq_none_iff.mpr ht]
  | @noPoint inner rest hi hk =>
    have hc := splitAtPair_append hi rest
    have hv : valueOf vars inner = .error (.noPoint (Text.trim inner)) := by
      unfold valueOf
      split
      · exact absurd ‹_› (hk _)
      · rfl
    simp [turn, ho, hc, hv]
  | noValue rest hi hk hl =>
    have hc := splitAtPair_append hi rest
    simp [turn, ho, hc, valueOf, hk, entry_eq_none_iff.mpr hl]

theorem turn_cases (vars : List (String × String)) (cs : List Char) :
    (¬ ['{', '{'] <:+: cs) ∨
      (∃ (p : Piece) (rest : List Char), p.Fits vars ∧ cs = p.source ++ rest) ∨
      ∃ before tail e, Leads '{' before ∧ Offence vars tail e ∧ cs = before ++ '{' :: '{' :: tail := by
  cases ho : splitAtPair '{' cs with
  | none => exact .inl (splitAtPair_eq_none_iff.mp ho)
  | some s =>
    obtain ⟨before, after⟩ := s
    obtain ⟨rfl, hb⟩ := leads_of_splitAtPair ho
    refine .inr ?_
    cases hc : splitAtPair '}' after with
    | none => exact .inr ⟨before, after, _, hb, .unterminated (splitAtPair_eq_none_iff.mp hc), rfl⟩
    | some s =>
      obtain ⟨inner, rest⟩ := s
      obtain ⟨rfl, hi⟩ := leads_of_splitAtPair hc
      cases hv : valueOf vars inner with
      | error e => exact .inr ⟨before, _, e, hb, offence_of_valueOf hi hv rest, rfl⟩
      | ok value =>
        refine .inl ⟨⟨before, inner, value⟩, rest, ⟨hb, hi, names_of_valueOf hv⟩, ?_⟩
        simp [Piece.source]

end Turn

theorem fill_sources {ps : List Piece} (h : ∀ p ∈ ps, p.Fits vars) (rest : List Char) :
    fill vars (ps.flatMap Piece.source ++ rest) =
      (fill vars rest).map (ps.flatMap Piece.filled ++ ·) := by
  induction ps with
  | nil => cases hf : fill vars rest <;> simp [hf, Except.map]
  | cons p ps ih =>
    obtain ⟨hp, hps⟩ := List.forall_mem_cons.mp h
    have ht := turn_source hp (ps.flatMap Piece.source ++ rest)
    rw [List.flatMap_cons, List.append_assoc, fill_eq, ht]
    simp only [ih hps]
    cases fill vars rest <;> simp [Except.map]

theorem exists_pieces (vars : List (String × String)) (cs : List Char) :
    ∃ ps : List Piece, (∀ p ∈ ps, p.Fits vars) ∧
      ((∃ last, (¬ ['{', '{'] <:+: last) ∧ cs = ps.flatMap Piece.source ++ last) ∨
        ∃ before tail e, Leads '{' before ∧ Offence vars tail e ∧
          cs = ps.flatMap Piece.source ++ (before ++ '{' :: '{' :: tail)) := by
  induction hn : cs.length using Nat.strongRecOn generalizing cs with
  | ind n ih =>
    rcases turn_cases vars cs with hl | ⟨p, rest, hp, rfl⟩ | ⟨before, tail, e, hb, he, rfl⟩
    · exact ⟨[], by simp, .inl ⟨cs, hl, rfl⟩⟩
    · have hlt : rest.length < n := by
        rw [← hn]
        simp [Piece.source]
        omega
      obtain ⟨ps, hps, h⟩ := ih rest.length hlt rest rfl
      refine ⟨p :: ps, List.forall_mem_cons.mpr ⟨hp, hps⟩, ?_⟩
      rcases h with ⟨last, hl, hr⟩ | ⟨before, tail, e, hb, he, hr⟩
      · exact .inl ⟨last, hl, by rw [hr, List.flatMap_cons, List.append_assoc]⟩
      · exact .inr ⟨before, tail, e, hb, he, by rw [hr, List.flatMap_cons, List.append_assoc]⟩
    · exact ⟨[], by simp, .inr ⟨before, tail, e, hb, he, rfl⟩⟩

section Fill

variable {cs out : List Char} {e : Error}

theorem fill_eq_ok_iff : fill vars cs = .ok out ↔
    ∃ (ps : List Piece) (last : List Char), (∀ p ∈ ps, p.Fits vars) ∧ (¬ ['{', '{'] <:+: last) ∧
      cs = ps.flatMap Piece.source ++ last ∧ out = ps.flatMap Piece.filled ++ last := by
  constructor
  · intro h
    obtain ⟨ps, hps, ⟨last, hl, rfl⟩ | ⟨before, tail, e, hb, he, rfl⟩⟩ := exists_pieces vars cs
    · rw [fill_sources hps, fill_eq, turn_of_no_pair hl] at h
      exact ⟨ps, last, hps, hl, rfl, (Except.ok.inj h).symm⟩
    · rw [fill_sources hps, fill_eq, turn_of_offence hb he] at h
      cases h
  · rintro ⟨ps, last, hps, hl, rfl, rfl⟩
    rw [fill_sources hps, fill_eq, turn_of_no_pair hl]
    rfl

theorem fill_eq_error_iff : fill vars cs = .error e ↔
    ∃ (ps : List Piece) (before tail : List Char), (∀ p ∈ ps, p.Fits vars) ∧ Leads '{' before ∧
      Offence vars tail e ∧ cs = ps.flatMap Piece.source ++ (before ++ '{' :: '{' :: tail) := by
  constructor
  · intro h
    obtain ⟨ps, hps, ⟨last, hl, rfl⟩ | ⟨before, tail, d, hb, hd, rfl⟩⟩ := exists_pieces vars cs
    · rw [fill_sources hps, fill_eq, turn_of_no_pair hl] at h
      cases h
    · rw [fill_sources hps, fill_eq, turn_of_offence hb hd] at h
      obtain rfl := Except.error.inj h
      exact ⟨ps, before, tail, hps, hb, hd, rfl⟩
  · rintro ⟨ps, before, tail, hps, hb, he, rfl⟩
    rw [fill_sources hps, fill_eq, turn_of_offence hb he]
    rfl

end Fill

/-- The loop by its turns: how many it makes, what is written, what is left, and what comes of it. -/
inductive Loop (vars : List (String × String)) :
    Nat → List Char → List Char → Except Error (List Char) → Prop
  | last {out cs : List Char} : turn vars cs = .last → Loop vars 1 out cs (.ok (out ++ cs))
  | refused {out cs : List Char} {e : Error} : turn vars cs = .refused e →
    Loop vars 1 out cs (.error e)
  | filled {n : Nat} {out cs rest : List Char} {p : Piece} {r : Except Error (List Char)} :
    turn vars cs = .filled p rest → Loop vars n (out ++ p.filled) rest r → Loop vars (n + 1) out cs r

theorem loop_ends (vars : List (String × String)) (out cs : List Char) :
    ∃ n, 4 * n ≤ cs.length + 4 ∧ Loop vars n out cs ((fill vars cs).map (out ++ ·)) := by
  induction hn : cs.length using Nat.strongRecOn generalizing out cs with
  | ind n ih =>
    rcases turn_cases vars cs with hl | ⟨p, rest, hp, rfl⟩ | ⟨before, tail, e, hb, he, rfl⟩
    · have ht : turn vars cs = .last := turn_of_no_pair hl
      rw [fill_eq, ht]
      exact ⟨1, by omega, .last ht⟩
    · have ht := turn_source hp rest
      have hlen : rest.length + 4 ≤ n := by
        rw [← hn]
        simp [Piece.source]
        omega
      obtain ⟨m, hm, hloop⟩ := ih rest.length (by omega) (out ++ p.filled) rest rfl
      have hr : (fill vars (p.source ++ rest)).map (out ++ ·) =
          (fill vars rest).map (out ++ p.filled ++ ·) := by
        rw [fill_eq, ht]
        cases hf : fill vars rest <;> simp [Except.map, hf]
      rw [hr]
      exact ⟨m + 1, by omega, .filled ht hloop⟩
    · have ht := turn_of_offence hb he
      rw [fill_eq, ht]
      exact ⟨1, by omega, .refused ht⟩

/-- A template is filled in exactly if it is a row of placeholders that fit and texts between them,
and refused exactly for its first placeholder that is no good. Either way the loop ends. -/
theorem render_by_pieces (template : String) (vars : List (String × String)) :
    (∀ out, render template vars = .ok out ↔
      ∃ (ps : List Piece) (last : List Char), (∀ p ∈ ps, p.Fits vars) ∧ (¬ ['{', '{'] <:+: last) ∧
        template.toList = ps.flatMap Piece.source ++ last ∧
        out.toList = ps.flatMap Piece.filled ++ last) ∧
    (∀ e, render template vars = .error e ↔
      ∃ (ps : List Piece) (before tail : List Char) (d : Error), (∀ p ∈ ps, p.Fits vars) ∧
        Leads '{' before ∧ Offence vars tail d ∧
        template.toList = ps.flatMap Piece.source ++ (before ++ '{' :: '{' :: tail) ∧
        e = .workspace d.message) ∧
    ∃ n, 4 * n ≤ template.length + 4 ∧
      Loop vars n [] template.toList (fill vars template.toList) := by
  refine ⟨fun out => ?_, fun e => ?_, ?_⟩
  · have hr : render template vars = .ok out ↔ fill vars template.toList = .ok out.toList := by
      rw [render]
      cases fill vars template.toList with
      | ok cs => simp [← String.toList_inj]
      | error d => simp
    rw [hr, fill_eq_ok_iff]
  · have hr : render template vars = .error e ↔
        ∃ d, fill vars template.toList = .error d ∧ e = .workspace d.message := by
      rw [render]
      cases fill vars template.toList with
      | ok cs => simp
      | error d => simp [eq_comm]
    rw [hr]
    constructor
    · rintro ⟨d, hd, rfl⟩
      obtain ⟨ps, before, tail, hps, hb, ho, ht⟩ := fill_eq_error_iff.mp hd
      exact ⟨ps, before, tail, d, hps, hb, ho, ht, rfl⟩
    · rintro ⟨ps, before, tail, d, hps, hb, ho, ht, rfl⟩
      exact ⟨d, fill_eq_error_iff.mpr ⟨ps, before, tail, hps, hb, ho, ht⟩, rfl⟩
  · obtain ⟨n, hn, hl⟩ := loop_ends vars [] template.toList
    have hr : (fill vars template.toList).map ([] ++ ·) = fill vars template.toList := by
      cases fill vars template.toList <;> simp [Except.map]
    rw [hr] at hl
    exact ⟨n, by rwa [String.length_toList] at hn, hl⟩

example : render "\x7b\x7b .K \x7d\x7d" [("K", "\x7b\x7b.L\x7d\x7d"), ("K", "c")] =
    .ok "\x7b\x7b.L\x7d\x7d" := by cbv

end Provision.Template
