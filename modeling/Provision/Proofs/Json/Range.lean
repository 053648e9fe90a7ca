import Provision.Json.Path
import Provision.Json.Reader
import Provision.Proofs.Json.InOrder

/-!
The numbers of a document that was read. An integer literal out of range becomes a double, so every
integer lies in its range.
-/

set_option autoImplicit false

namespace Provision

inductive Written.Bounded : Written → Prop
  | null : Bounded .null
  | bool (b : Bool) : Bounded (.bool b)
  | num {n : Json.Number} (h : n.InRange) : Bounded (.num n)
  | str (s : String) : Bounded (.str s)
  | arr {ws : List Written} (h : ∀ w ∈ ws, Bounded w) : Bounded (.arr ws)
  | obj {ms : List (String × Written)} (h : ∀ m ∈ ms, Bounded m.2) : Bounded (.obj ms)
  | void : Bounded .void

theorem Written.Bounded.unless {w : Written} {p : Prop} [Decidable p] (h : w.Bounded) :
    Bounded (if p then .void else w) := by
  split
  · exact .void
  · exact h

namespace Json

inductive Bounded : Json → Prop
  | null : Bounded .null
  | bool (b : Bool) : Bounded (.bool b)
  | num {n : Json.Number} (h : n.InRange) : Bounded (.num n)
  | str (s : String) : Bounded (.str s)
  | arr {xs : List Json} (h : ∀ x ∈ xs, Bounded x) : Bounded (.arr xs)
  | obj {ms : List (String × Json)} (h : ∀ m ∈ ms, Bounded m.2) : Bounded (.obj ms)

theorem leadingDigits_lt (ds : List Nat) : (leadingDigits ds).1 < UInt64.size := by
  unfold leadingDigits
  refine List.foldlRecOn (motive := fun (acc : Nat × Nat) => acc.1 < UInt64.size) ds _ (by decide) ?_
  rintro ⟨n, dropped⟩ h d -
  by_cases hd : dropped = 0 ∧ 10 * n + d < UInt64.size
  · simpa only [if_pos hd] using hd.2
  · simpa only [if_neg hd] using h

theorem inRange_of_number? {l : Literal} {n : Number} (h : l.number? = some n) : n.InRange := by
  have hlt := leadingDigits_lt l.whole
  unfold Literal.number? at h
  split at h
  rename_i k dropped hk
  rw [hk] at hlt
  split at h
  · split at h
    · cases h
      refine ⟨?_, ?_⟩
      · simp only [leastInt64]
        omega
      · exact_mod_cast hlt
    · split at h
      · obtain ⟨x, -, rfl⟩ := Option.map_eq_some_iff.mp h
        trivial
      · rename_i hr
        cases h
        rw [not_or] at hr
        refine ⟨by omega, ?_⟩
        simp only [UInt64.size]
        omega
  · obtain ⟨c, -, hc⟩ := Option.bind_eq_some_iff.mp h
    obtain ⟨x, -, rfl⟩ := Option.map_eq_some_iff.mp hc
    trivial

namespace Token

def Bounded (t : Token) : Prop := ∀ n, t = .num (some n) → n.InRange

theorem bounded_of_next? {cs rest : List Char} {t : Token} (h : next? cs = some (t, rest)) :
    t.Bounded := by
  intro n hn
  subst hn
  unfold next? at h
  split at h <;> try cases h
  · obtain ⟨r, -, hr⟩ := Option.map_eq_some_iff.mp h
    cases hr
  · obtain ⟨r, -, hr⟩ := Option.map_eq_some_iff.mp h
    exact inRange_of_number? (Token.num.inj (Prod.mk.inj hr).1)
  · obtain ⟨r, -, hr⟩ := Option.map_eq_some_iff.mp h
    exact inRange_of_number? (Token.num.inj (Prod.mk.inj hr).1)

theorem bounded_of_scan {fuel : Nat} {cs : List Char} {ts : List Token}
    (h : scan fuel cs = some ts) : ∀ t ∈ ts, t.Bounded := by
  induction fuel generalizing cs ts with
  | zero =>
    cases cs with
    | nil => cases h; simp
    | cons c cs => cases h
  | succ fuel ih =>
    cases cs with
    | nil => cases h; simp
    | cons c cs =>
      rw [scan] at h
      split at h
      · exact ih h
      · obtain ⟨⟨t, rest⟩, ht, h⟩ := Option.bind_eq_some_iff.mp h
        obtain ⟨us, hu, h⟩ := Option.bind_eq_some_iff.mp h
        cases h
        exact List.forall_mem_cons.mpr ⟨bounded_of_next? ht, ih hu⟩

end Token

namespace Reader

-- reading goes down one level of fuel at a time, so the three functions share one induction
mutual
theorem bounded_of_value : ∀ (fuel room : Nat) (ts : List Token) {w : Written} {rest : List Token},
    value fuel room ts = some (w, rest) → (∀ t ∈ ts, t.Bounded) →
    w.Bounded ∧ ∀ t ∈ rest, t.Bounded
  | 0, _, _, _, _, h, _ => by cases h
  | fuel + 1, room, [], _, _, h, _ => by cases h
  | fuel + 1, room, t :: ts, w, rest, h, hall => by
    obtain ⟨ht, hts⟩ := List.forall_mem_cons.mp hall
    cases t with
    | null => cases h; exact ⟨.null, hts⟩
    | bool b => cases h; exact ⟨.bool b, hts⟩
    | num n? =>
      cases n? with
      | none => cases h; exact ⟨.void, hts⟩
      | some n => cases h; exact ⟨.num (ht n rfl), hts⟩
    | str s? =>
      cases s? with
      | none => cases h; exact ⟨.void, hts⟩
      | some s => cases h; exact ⟨.str s, hts⟩
    | openArray =>
      unfold value at h
      simp only at h
      split at h
      · cases h
        exact ⟨.unless (.arr (by simp)), (List.forall_mem_cons.mp hts).2⟩
      · obtain ⟨⟨ws, r⟩, hw, h⟩ := Option.bind_eq_some_iff.mp h
        cases h
        obtain ⟨hws, hr⟩ := bounded_of_items fuel (room - 1) ts hw hts
        exact ⟨.unless (.arr hws), hr⟩
    | openObject =>
      unfold value at h
      simp only at h
      split at h
      · cases h
        exact ⟨.unless (.obj (by simp)), (List.forall_mem_cons.mp hts).2⟩
      · obtain ⟨⟨ms?, r⟩, hm, h⟩ := Option.bind_eq_some_iff.mp h
        cases h
        obtain ⟨hms, hr⟩ := bounded_of_members fuel (room - 1) ts hm hts
        cases ms? with
        | none => exact ⟨.void, hr⟩
        | some ms => exact ⟨.unless (.obj (hms ms rfl)), hr⟩
    | closeArray => cases h
    | closeObject => cases h
    | colon => cases h
    | comma => cases h
theorem bounded_of_items : ∀ (fuel room : Nat) (ts : List Token) {ws : List Written}
    {rest : List Token}, items fuel room ts = some (ws, rest) → (∀ t ∈ ts, t.Bounded) →
    (∀ w ∈ ws, w.Bounded) ∧ ∀ t ∈ rest, t.Bounded
  | 0, _, _, _, _, h, _ => by cases h
  | fuel + 1, room, ts, ws, rest, h, hts => by
    obtain ⟨⟨w, r⟩, hw, h⟩ := Option.bind_eq_some_iff.mp h
    obtain ⟨hb, hr⟩ := bounded_of_value fuel room ts hw hts
    simp only at h
    split at h
    · cases h
      exact ⟨by simpa using hb, (List.forall_mem_cons.mp hr).2⟩
    · obtain ⟨⟨vs, r'⟩, hv, h⟩ := Option.bind_eq_some_iff.mp h
      cases h
      obtain ⟨hvs, hr'⟩ := bounded_of_items fuel room _ hv (List.forall_mem_cons.mp hr).2
      exact ⟨List.forall_mem_cons.mpr ⟨hb, hvs⟩, hr'⟩
    · cases h
theorem bounded_of_members : ∀ (fuel room : Nat) (ts : List Token)
    {ms? : Option (List (String × Written))} {rest : List Token},
    members fuel room ts = some (ms?, rest) → (∀ t ∈ ts, t.Bounded) →
    (∀ ms, ms? = some ms → ∀ m ∈ ms, m.2.Bounded) ∧ ∀ t ∈ rest, t.Bounded
  | 0, _, _, _, _, h, _ => by cases h
  | fuel + 1, room, ts, ms?, rest, h, hts => by
    unfold members at h
    split at h
    · rename_i name us
      have hus : ∀ t ∈ us, t.Bounded := fun t ht => hts t (by simp [ht])
      obtain ⟨⟨w, r⟩, hw, h⟩ := Option.bind_eq_some_iff.mp h
      obtain ⟨hb, hr⟩ := bounded_of_value fuel room us hw hus
      simp only at h
      split at h
      · cases h
        refine ⟨fun ms hms => ?_, (List.forall_mem_cons.mp hr).2⟩
        obtain ⟨m, hm, rfl⟩ := Option.map_eq_some_iff.mp hms
        obtain ⟨k, -, rfl⟩ := Option.map_eq_some_iff.mp hm
        simpa using hb
      · obtain ⟨⟨ns?, r'⟩, hn, h⟩ := Option.bind_eq_some_iff.mp h
        cases h
        obtain ⟨hns, hr'⟩ := bounded_of_members fuel room _ hn (List.forall_mem_cons.mp hr).2
        refine ⟨fun ms hms => ?_, hr'⟩
        obtain ⟨m, hm, hms⟩ := Option.bind_eq_some_iff.mp hms
        obtain ⟨ns, hns?, hms⟩ := Option.bind_eq_some_iff.mp hms
        obtain ⟨k, -, rfl⟩ := Option.map_eq_some_iff.mp hm
        cases hms
        exact List.forall_mem_cons.mpr ⟨hb, hns ns hns?⟩
      · cases h
    · cases h
end

end Reader

theorem bounded_of_readWritten {text : String} {w : Written} (h : readWritten text = some w) :
    w.Bounded := by
  obtain ⟨ts, ht, h⟩ := Option.bind_eq_some_iff.mp h
  split at h
  · rename_i v hv
    cases h
    exact (Reader.bounded_of_value _ _ ts hv (Token.bounded_of_scan ht)).1
  · cases h

mutual
theorem bounded_of_value? : ∀ (w : Written) {j : Json}, w.value? = some j → w.Bounded → j.Bounded
  | .null, _, h, _ => by cases h; exact .null
  | .bool b, _, h, _ => by cases h; exact .bool b
  | .num n, _, h, hw => by
    cases h
    cases hw with
    | num hn => exact .num hn
  | .str s, _, h, _ => by cases h; exact .str s
  | .arr ws, _, h, hw => by
    obtain ⟨xs, hx, rfl⟩ := Option.map_eq_some_iff.mp h
    cases hw with
    | arr hws => exact .arr (bounded_of_valueItems? ws hx hws)
  | .obj ms, _, h, hw => by
    obtain ⟨ns, hn, rfl⟩ := Option.map_eq_some_iff.mp h
    cases hw with
    | obj hms =>
      exact .obj fun m hm => bounded_of_valueMembers? ms hn hms m (mem_of_mem_sortMembers hm)
  | .void, _, h, _ => by cases h
theorem bounded_of_valueItems? : ∀ (ws : List Written) {xs : List Json},
    Written.valueItems? ws = some xs → (∀ w ∈ ws, w.Bounded) → ∀ x ∈ xs, x.Bounded
  | [], _, h, _ => by cases h; simp
  | w :: ws, _, h, hall => by
    obtain ⟨x, hx, h⟩ := Option.bind_eq_some_iff.mp h
    obtain ⟨xs, hs, h⟩ := Option.bind_eq_some_iff.mp h
    obtain ⟨hw, hws⟩ := List.forall_mem_cons.mp hall
    cases h
    exact List.forall_mem_cons.mpr ⟨bounded_of_value? w hx hw, bounded_of_valueItems? ws hs hws⟩
theorem bounded_of_valueMembers? : ∀ (ms : List (String × Written)) {ns : List (String × Json)},
    Written.valueMembers? ms = some ns → (∀ m ∈ ms, m.2.Bounded) → ∀ n ∈ ns, n.2.Bounded
  | [], _, h, _ => by cases h; simp
  | (k, w) :: ms, _, h, hall => by
    obtain ⟨x, hx, h⟩ := Option.bind_eq_some_iff.mp h
    obtain ⟨ns, hs, h⟩ := Option.bind_eq_some_iff.mp h
    obtain ⟨hw, hms⟩ := List.forall_mem_cons.mp hall
    cases h
    exact List.forall_mem_cons.mpr
      ⟨bounded_of_value? w hx hw, bounded_of_valueMembers? ms hs hms⟩
end

theorem bounded_of_parse {text : String} {j : Json} (h : parse text = some j) : j.Bounded := by
  obtain ⟨w, hw, h⟩ := Option.bind_eq_some_iff.mp h
  exact bounded_of_value? w h (bounded_of_readWritten hw)

theorem Bounded.step {j k : Json} {segment : String} (hj : j.Bounded)
    (h : j.step segment = some k) : k.Bounded := by
  cases hj with
  | arr hxs =>
    obtain ⟨i, -, hi⟩ := Option.bind_eq_some_iff.mp h
    exact hxs k (List.mem_of_getElem? hi)
  | obj hms =>
    obtain ⟨before, after, rfl, -⟩ := List.lookup_eq_some_iff.mp h
    exact hms (segment, k) (by simp)
  | _ => cases h

theorem Bounded.dig {j k : Json} {path : List String} (hj : j.Bounded)
    (h : j.dig path = some k) : k.Bounded := by
  induction path generalizing j with
  | nil =>
    cases h
    exact hj
  | cons s path ih =>
    obtain ⟨l, hl, h⟩ := Option.bind_eq_some_iff.mp h
    exact ih (hj.step hl) h

theorem inRange_dig {text : String} {root : Json} {path : List String} {n : Number}
    (hr : parse text = some root) (hn : root.dig path = some (.num n)) : n.InRange := by
  cases (bounded_of_parse hr).dig hn with
  | num h => exact h

end Json
end Provision
