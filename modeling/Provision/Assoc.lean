set_option autoImplicit false

namespace Provision

variable {α : Type}

def insertMember (name : String) (v : α) : List (String × α) → List (String × α)
  | [] => [(name, v)]
  | (k, w) :: ms =>
    if name < k then (name, v) :: (k, w) :: ms
    else if name = k then (name, v) :: ms
    else (k, w) :: insertMember name v ms

/-- Entries in increasing order of their names; the last of a repeated name stays. -/
def sortMembers (ms : List (String × α)) : List (String × α) :=
  ms.foldl (fun acc m => insertMember m.1 m.2 acc) []

def Ordered (ms : List (String × α)) : Prop := ms.Pairwise fun a b => a.1 < b.1

theorem lt_of_not_lt {a b : String} (h : ¬a < b) (ne : a ≠ b) : b < a :=
  Decidable.byContradiction fun n =>
    ne (String.le_antisymm (String.not_lt.mp n) (String.not_lt.mp h))

theorem mem_insertMember {name : String} {v : α} {ms : List (String × α)} {m : String × α}
    (h : m ∈ insertMember name v ms) : m = (name, v) ∨ m ∈ ms := by
  induction ms with
  | nil => simpa [insertMember] using h
  | cons p ms ih =>
    obtain ⟨k, w⟩ := p
    simp only [insertMember] at h
    split at h
    · exact List.mem_cons.mp h
    · split at h
      · rcases List.mem_cons.mp h with h | h
        · exact Or.inl h
        · exact Or.inr (List.mem_cons_of_mem _ h)
      · rcases List.mem_cons.mp h with h | h
        · exact Or.inr (h ▸ List.mem_cons_self)
        · exact (ih h).imp_right (List.mem_cons_of_mem _)

theorem Ordered.insertMember {name : String} {v : α} {ms : List (String × α)} (h : Ordered ms) :
    Ordered (insertMember name v ms) := by
  induction ms with
  | nil => simp [Ordered, Provision.insertMember]
  | cons p ms ih =>
    obtain ⟨k, w⟩ := p
    obtain ⟨hk, ht⟩ := List.pairwise_cons.mp h
    simp only [Provision.insertMember]
    split
    · rename_i hlt
      refine List.pairwise_cons.mpr ⟨fun m hm => ?_, h⟩
      rcases List.mem_cons.mp hm with rfl | hm
      · exact hlt
      · exact String.lt_trans hlt (hk m hm)
    · rename_i hge
      split
      · rename_i heq
        subst heq
        exact List.pairwise_cons.mpr ⟨hk, ht⟩
      · rename_i hne
        refine List.pairwise_cons.mpr ⟨fun m hm => ?_, ih ht⟩
        rcases mem_insertMember hm with rfl | hm
        · exact lt_of_not_lt hge hne
        · exact hk m hm

theorem ordered_sortMembers (ms : List (String × α)) : Ordered (sortMembers ms) := by
  suffices h : ∀ acc : List (String × α), Ordered acc →
      Ordered (ms.foldl (fun acc m => insertMember m.1 m.2 acc) acc) from h [] List.Pairwise.nil
  induction ms with
  | nil => exact fun _ h => h
  | cons m ms ih => exact fun acc h => ih _ h.insertMember

/-- A map from names, each name once, in increasing order. -/
structure Assoc (α : Type) where
  entries : List (String × α)
  ordered : Ordered entries

namespace Assoc

theorem ext_entries {a b : Assoc α} (h : a.entries = b.entries) : a = b := by
  cases a; cases b; cases h; rfl

instance [DecidableEq α] : DecidableEq (Assoc α) := fun a b =>
  if h : a.entries = b.entries then isTrue (ext_entries h) else isFalse fun e => h (e ▸ rfl)

def empty : Assoc α := ⟨[], List.Pairwise.nil⟩

instance : Inhabited (Assoc α) := ⟨empty⟩

def ofList (ms : List (String × α)) : Assoc α := ⟨sortMembers ms, ordered_sortMembers ms⟩

end Assoc
end Provision
