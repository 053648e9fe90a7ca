import Provision.Assoc

set_option autoImplicit false

namespace Provision

variable {α : Type}

theorem insertMember_perm {name : String} {v : α} {ms : List (String × α)}
    (h : name ∉ ms.map Prod.fst) : (insertMember name v ms).Perm ((name, v) :: ms) := by
  induction ms with
  | nil => exact .refl _
  | cons m ms ih =>
    obtain ⟨k, w⟩ := m
    simp only [List.map_cons, List.mem_cons, not_or] at h
    obtain ⟨hk, hm⟩ := h
    simp only [insertMember, if_neg hk]
    split
    · exact .refl _
    · exact ((ih hm).cons (k, w)).trans (.swap (name, v) (k, w) ms)

theorem foldl_insertMember_perm {ms : List (String × α)} (hn : (ms.map Prod.fst).Nodup)
    {acc : List (String × α)} (hd : ∀ m ∈ ms, m.1 ∉ acc.map Prod.fst) :
    (ms.foldl (fun acc m => insertMember m.1 m.2 acc) acc).Perm (acc ++ ms) := by
  induction ms generalizing acc with
  | nil => simp
  | cons m ms ih =>
    obtain ⟨hm, hn⟩ := List.nodup_cons.mp hn
    obtain ⟨hk, hd⟩ := List.forall_mem_cons.mp hd
    have hp : (insertMember m.1 m.2 acc).Perm (m :: acc) := insertMember_perm hk
    have hd' : ∀ b ∈ ms, b.1 ∉ (insertMember m.1 m.2 acc).map Prod.fst := by
      intro b hb hin
      rcases List.mem_cons.mp ((hp.map Prod.fst).mem_iff.mp hin) with he | hin
      · exact hm (he ▸ List.mem_map_of_mem hb)
      · exact hd b hb hin
    refine (ih hn hd').trans ((hp.append_right ms).trans ?_)
    exact List.perm_middle.symm

theorem sortMembers_perm {ms : List (String × α)} (h : (ms.map Prod.fst).Nodup) :
    (sortMembers ms).Perm ms := by
  have hp := @foldl_insertMember_perm _ ms h [] (by simp)
  rwa [List.nil_append] at hp

theorem lookup_eq_some_iff_mem {ms : List (String × α)} (h : (ms.map Prod.fst).Nodup) {k : String}
    {v : α} : ms.lookup k = some v ↔ (k, v) ∈ ms := by
  constructor
  · intro hl
    obtain ⟨before, after, rfl, -⟩ := List.lookup_eq_some_iff.mp hl
    simp
  · intro hm
    obtain ⟨before, after, rfl⟩ := List.append_of_mem hm
    refine List.lookup_eq_some_iff.mpr ⟨before, after, rfl, fun m hb => ?_⟩
    rw [List.map_append, List.nodup_append] at h
    have hne : m.1 ≠ k := h.2.2 m.1 (List.mem_map_of_mem hb) k List.mem_cons_self
    simpa using hne.symm

theorem lookup_cons_eq (l : String) (w : α) (ms : List (String × α)) (k : String) :
    ((l, w) :: ms).lookup k = if k = l then some w else ms.lookup k := by
  by_cases hk : k = l
  · simp [hk]
  · simp [List.lookup_cons, hk, beq_eq_false_iff_ne.mpr hk]

theorem lookup_insertMember (name : String) (v : α) (ms : List (String × α)) (k : String) :
    (insertMember name v ms).lookup k = if k = name then some v else ms.lookup k := by
  induction ms with
  | nil => simp [insertMember, lookup_cons_eq]
  | cons m ms ih =>
    obtain ⟨l, w⟩ := m
    by_cases hlt : name < l
    · simp only [insertMember, if_pos hlt, lookup_cons_eq]
    · by_cases hn : name = l
      · simp only [insertMember, if_neg hlt, if_pos hn, lookup_cons_eq]
        by_cases hk : k = name <;> simp [hk, ← hn]
      · simp only [insertMember, if_neg hlt, if_neg hn, lookup_cons_eq, ih]
        by_cases hk : k = name <;> simp [hk, hn]

theorem lookup_filter_ne (name : String) (ms : List (String × α)) (k : String) :
    (ms.filter fun m => m.1 ≠ name).lookup k = if k = name then none else ms.lookup k := by
  induction ms with
  | nil => simp
  | cons m ms ih =>
    obtain ⟨l, w⟩ := m
    by_cases hn : l = name
    · simp only [List.filter_cons_of_neg, hn, ne_eq, not_true_eq_false, decide_false,
        Bool.false_eq_true, not_false_eq_true, ih, lookup_cons_eq]
      split <;> rfl
    · simp only [List.filter_cons_of_pos, hn, ne_eq, not_false_eq_true, decide_true, ih,
        lookup_cons_eq]
      by_cases hk : k = name
      · simp [hk, Ne.symm hn]
      · simp [hk]

theorem lookup_map_entries {β : Type} (f : String → α → β) (ms : List (String × α)) (k : String) :
    (ms.map fun m => (m.1, f m.1 m.2)).lookup k = (ms.lookup k).map (f k) := by
  induction ms with
  | nil => rfl
  | cons m ms ih =>
    obtain ⟨l, w⟩ := m
    simp only [List.map_cons, lookup_cons_eq, ih]
    by_cases hk : k = l <;> simp [hk]

namespace Ordered

variable {as bs : List (String × α)}

theorem nodup_names (h : Ordered as) : (as.map Prod.fst).Nodup := by
  refine List.pairwise_map.mpr (h.imp ?_)
  intro a b hlt he
  exact String.lt_irrefl b.1 (he ▸ hlt)

theorem nodup (h : Ordered as) : as.Nodup := by
  refine h.imp ?_
  rintro a b hlt rfl
  exact String.lt_irrefl a.1 hlt

theorem eq_of_mem_iff (ha : Ordered as) (hb : Ordered bs) (h : ∀ m, m ∈ as ↔ m ∈ bs) : as = bs := by
  have hp : as.Perm bs := (List.perm_ext_iff_of_nodup ha.nodup hb.nodup).mpr h
  refine hp.eq_of_pairwise (fun a b _ _ hab hba => ?_) ha hb
  exact absurd (String.lt_trans hab hba) (String.lt_irrefl _)

theorem lookup_eq_some_iff (h : Ordered as) {k : String} {v : α} :
    as.lookup k = some v ↔ (k, v) ∈ as := lookup_eq_some_iff_mem h.nodup_names

end Ordered

theorem lookup_sortMembers {ms : List (String × α)} (h : (ms.map Prod.fst).Nodup) (k : String) :
    (sortMembers ms).lookup k = ms.lookup k := by
  refine Option.ext fun v => ?_
  rw [(ordered_sortMembers ms).lookup_eq_some_iff, (sortMembers_perm h).mem_iff,
    lookup_eq_some_iff_mem h]

theorem Assoc.ofList_entries (m : Assoc α) : Assoc.ofList m.entries = m := by
  refine Assoc.ext_entries ((ordered_sortMembers _).eq_of_mem_iff m.ordered fun e => ?_)
  exact (sortMembers_perm m.ordered.nodup_names).mem_iff

end Provision
