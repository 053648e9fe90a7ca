import Provision.Json.Written
import Provision.Proofs.Assoc

set_option autoImplicit false

namespace Provision

theorem sortMembers_of_ordered {α : Type} {ms : List (String × α)} (h : Ordered ms) :
    sortMembers ms = ms :=
  congrArg Assoc.entries (Assoc.ofList_entries ⟨ms, h⟩)

theorem mem_of_mem_sortMembers {α : Type} {ms : List (String × α)} {m : String × α}
    (h : m ∈ sortMembers ms) : m ∈ ms := by
  suffices hs : ∀ acc : List (String × α),
      m ∈ ms.foldl (fun acc m => insertMember m.1 m.2 acc) acc → m ∈ acc ∨ m ∈ ms by
    simpa using hs [] h
  clear h
  induction ms with
  | nil => exact fun acc h => .inl h
  | cons n ms ih =>
    intro acc h
    rcases ih _ h with ha | hm
    · rcases mem_insertMember ha with rfl | ha
      · exact .inr List.mem_cons_self
      · exact .inl ha
    · exact .inr (List.mem_cons_of_mem n hm)

namespace Json

inductive InOrder : Json → Prop
  | null : InOrder .null
  | bool (b : Bool) : InOrder (.bool b)
  | num (n : Json.Number) : InOrder (.num n)
  | str (s : String) : InOrder (.str s)
  | arr {xs : List Json} (h : ∀ x ∈ xs, InOrder x) : InOrder (.arr xs)
  | obj {ms : List (String × Json)} (ho : Ordered ms) (h : ∀ m ∈ ms, InOrder m.2) :
    InOrder (.obj ms)

theorem valueItems?_written {xs : List Json} (h : ∀ x ∈ xs, x.written.value? = some x) :
    Written.valueItems? (writtenItems xs) = some xs := by
  induction xs with
  | nil => rfl
  | cons x xs ih =>
    obtain ⟨hx, hs⟩ := List.forall_mem_cons.mp h
    simp [writtenItems, Written.valueItems?, hx, ih hs]

theorem valueMembers?_written {ms : List (String × Json)}
    (h : ∀ m ∈ ms, m.2.written.value? = some m.2) :
    Written.valueMembers? (writtenMembers ms) = some ms := by
  induction ms with
  | nil => rfl
  | cons m ms ih =>
    obtain ⟨hm, hs⟩ := List.forall_mem_cons.mp h
    simp [writtenMembers, Written.valueMembers?, hm, ih hs]

theorem InOrder.value?_written {j : Json} (h : j.InOrder) : j.written.value? = some j := by
  induction h with
  | null => rfl
  | bool b => rfl
  | num n => rfl
  | str s => rfl
  | arr h ih => simp [written, Written.value?, valueItems?_written ih]
  | obj ho h ih =>
    simp [written, Written.value?, valueMembers?_written ih, ofMembers, sortMembers_of_ordered ho]

mutual
theorem inOrder_of_value? : ∀ (w : Written) {j : Json}, w.value? = some j → j.InOrder
  | .null, _, h => by cases h; exact .null
  | .bool b, _, h => by cases h; exact .bool b
  | .num n, _, h => by cases h; exact .num n
  | .str s, _, h => by cases h; exact .str s
  | .arr ws, _, h => by
    obtain ⟨xs, hx, rfl⟩ := Option.map_eq_some_iff.mp h
    exact .arr (inOrder_of_valueItems? ws hx)
  | .obj ms, _, h => by
    obtain ⟨ns, hn, rfl⟩ := Option.map_eq_some_iff.mp h
    refine .obj (ordered_sortMembers ns) fun m hm => ?_
    exact inOrder_of_valueMembers? ms hn m (mem_of_mem_sortMembers hm)
  | .void, _, h => by cases h
theorem inOrder_of_valueItems? : ∀ (ws : List Written) {xs : List Json},
    Written.valueItems? ws = some xs → ∀ x ∈ xs, x.InOrder
  | [], _, h => by cases h; simp
  | w :: ws, _, h => by
    obtain ⟨x, hx, h⟩ := Option.bind_eq_some_iff.mp h
    obtain ⟨xs, hs, h⟩ := Option.bind_eq_some_iff.mp h
    cases h
    exact List.forall_mem_cons.mpr ⟨inOrder_of_value? w hx, inOrder_of_valueItems? ws hs⟩
theorem inOrder_of_valueMembers? : ∀ (ms : List (String × Written)) {ns : List (String × Json)},
    Written.valueMembers? ms = some ns → ∀ n ∈ ns, n.2.InOrder
  | [], _, h => by cases h; simp
  | (k, w) :: ms, _, h => by
    obtain ⟨x, hx, h⟩ := Option.bind_eq_some_iff.mp h
    obtain ⟨ns, hs, h⟩ := Option.bind_eq_some_iff.mp h
    cases h
    exact List.forall_mem_cons.mpr ⟨inOrder_of_value? w hx, inOrder_of_valueMembers? ms hs⟩
end

end Json
end Provision
