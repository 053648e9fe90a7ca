import Mathlib.Data.List.Infix
import Provision.FileTree

set_option autoImplicit false

namespace Provision

structure Plain (n : String) : Prop where
  ne_empty : n ≠ ""
  ne_here : n ≠ "."
  ne_above : n ≠ ".."
  no_slash : '/' ∉ n.toList

namespace Text

theorem pieces_append {sep : Char} {cs rest : List Char} {ps : List (List Char)} (h : sep ∉ cs)
    (hr : pieces sep rest = [] :: ps) : pieces sep (cs ++ rest) = cs :: ps := by
  induction cs with
  | nil => exact hr
  | cons c cs ih =>
    rw [List.mem_cons, not_or] at h
    rw [List.cons_append, pieces, if_neg (Ne.symm h.1), ih h.2]

end Text

namespace Path

variable {ns : List String} {n : String}

theorem pieces_below (h : ∀ n ∈ ns, Plain n) :
    Text.pieces '/' (below ns).text.toList = [] :: ns.map String.toList := by
  rw [below, String.toList_ofList]
  induction ns with
  | nil => rfl
  | cons n ns ih =>
    obtain ⟨hn, hns⟩ := List.forall_mem_cons.mp h
    rw [List.flatMap_cons, List.cons_append, Text.pieces, if_pos rfl,
      Text.pieces_append hn.no_slash (ih hns), List.map_cons]

theorem names_below (h : ∀ n ∈ ns, Plain n) : (below ns).names = ns := by
  rw [names, pieces_below h, List.filter_cons_of_neg (by simp)]
  rw [List.filter_eq_self.mpr ?_, List.map_map]
  · conv_rhs => rw [← List.map_id ns]
    exact List.map_congr_left fun n _ => String.ofList_toList
  · intro cs hc
    obtain ⟨n, hn, rfl⟩ := List.mem_map.mp hc
    have hne := (h n hn).ne_empty
    simpa using hne

theorem route_below (h : ∀ m ∈ ns, Plain m) (hn : Plain n) :
    (below (ns ++ [n])).route = ⟨true, ns, .name n false⟩ := by
  have hall : ∀ m ∈ ns ++ [n], Plain m := by
    intro m hm
    rcases List.mem_append.mp hm with hm | hm
    · exact h m hm
    · rwa [List.mem_singleton.mp hm]
  have ha : (below (ns ++ [n])).isAbsolute = true := by
    cases ns <;> simp [isAbsolute, below]
  have hs : (below (ns ++ [n])).endsInSlash = false := by
    have hl : (below (ns ++ [n])).text.toList.getLast? = n.toList.getLast? := by
      have hne : n.toList ≠ [] := by simpa using hn.ne_empty
      obtain ⟨c, cs, hc⟩ := List.exists_cons_of_ne_nil hne
      rw [below, String.toList_ofList, List.flatMap_append, List.getLast?_append_of_ne_nil _ (by simp)]
      simp [hc]
    rw [endsInSlash, hl]
    exact decide_eq_false fun he => hn.no_slash (List.mem_of_getLast? he)
  rw [route, names_below hall, ha, hs, Route.ofNames]
  simp [Route.tipOf, hn.ne_here, hn.ne_above]

end Path

namespace FileTree

variable {t t' : FileTree} {p q : Place} {n : String} {ns : List String} {e : Entry} {r : Route}

theorem lookup_filter_places (f : Place → Bool) (ms : List (Place × Entry)) (q : Place) :
    (ms.filter fun m => f m.1).lookup q = if f q then ms.lookup q else none := by
  induction ms with
  | nil => simp
  | cons m ms ih =>
    obtain ⟨p, e⟩ := m
    by_cases hq : q = p
    · subst hq
      by_cases hf : f q = true <;> simp [hf, ih]
    · have hb : (q == p) = false := beq_eq_false_iff_ne.mpr hq
      by_cases hf : f p = true <;> simp [hf, List.lookup_cons, hb, ih]

theorem mem_places_of_at? (hp : p ≠ []) (h : t.at? p ≠ none) : p ∈ t.entries.map Prod.fst := by
  rw [at?, if_neg hp, ne_eq, List.lookup_eq_none_iff] at h
  by_contra hn
  exact h fun m hm => bne_iff_ne.mpr fun he => hn (List.mem_map.mpr ⟨m, hm, he.symm⟩)

theorem at?_set (h : p ≠ []) : (t.set p e).at? q = if q = p then some e else t.at? q := by
  by_cases hq : q = p
  · simp [at?, set, hq, h]
  · have hb : (q == p) = false := beq_eq_false_iff_ne.mpr hq
    simp [at?, set, hq, List.lookup_cons, hb, lookup_filter_places fun m => m != p]

theorem at?_remove (h : p ≠ []) :
    (t.remove p).at? q = if p.isPrefixOf q then none else t.at? q := by
  rw [at?, at?, remove, lookup_filter_places fun m => !p.isPrefixOf m]
  by_cases hq : q = []
  · simp [hq, h]
  · cases hp : p.isPrefixOf q <;> simp [hq]

theorem enter_eq_ok_iff : t.enter p n = .ok q ↔
    (n = "." ∧ q = p) ∨ (n = ".." ∧ q = p.dropLast) ∨
      (n ≠ "." ∧ n ≠ ".." ∧ checkName n = .ok () ∧ t.isDir (p ++ [n]) = true ∧ q = p ++ [n]) := by
  rw [enter]
  by_cases hh : n = "."
  · subst hh
    simp [eq_comm (a := q)]
  by_cases ha : n = ".."
  · subst ha
    simp [eq_comm (a := q)]
  rw [if_neg hh, if_neg ha]
  cases hc : checkName n with
  | error f => simp [hh, ha]
  | ok u =>
    rcases hd : t.at? (p ++ [n]) with _ | (_ | content)
    · simp [hh, ha, isDir, hd]
    · simp [hh, ha, isDir, hd, eq_comm (a := q)]
    · simp [hh, ha, isDir, hd]

theorem length_enter (h : t.enter p n = .ok q) : q.length ≤ p.length + 1 := by
  rcases enter_eq_ok_iff.mp h with ⟨-, rfl⟩ | ⟨-, rfl⟩ | ⟨-, -, -, -, rfl⟩
  · omega
  · rw [List.length_dropLast]
    omega
  · simp

theorem walk_cons_eq_ok_iff : t.walk p (n :: ns) = .ok q ↔
    ∃ m, t.enter p n = .ok m ∧ t.walk m ns = .ok q := by
  rw [walk]
  cases t.enter p n <;> simp

theorem walk_mono (hd : ∀ m, m.length ≤ p.length + ns.length → t.isDir m = true → t'.isDir m = true)
    (h : t.walk p ns = .ok q) : t'.walk p ns = .ok q := by
  induction ns generalizing p with
  | nil => exact h
  | cons n ns ih =>
    obtain ⟨m, hm, hw⟩ := walk_cons_eq_ok_iff.mp h
    -- one name leads at most one place further down, so the bound holds for what is left
    have hl := length_enter hm
    refine walk_cons_eq_ok_iff.mpr ⟨m, ?_, ih (fun l hle => hd l ?_) hw⟩
    · rw [enter_eq_ok_iff] at hm ⊢
      refine hm.imp_right (Or.imp_right ?_)
      rintro ⟨hh, ha, hc, hi, rfl⟩
      exact ⟨hh, ha, hc, hd _ (by simp) hi, rfl⟩
    · simp only [List.length_cons]
      omega

theorem walk_plain (hp : ∀ n ∈ ns, Plain n) (h : t.walk p ns = .ok q) : q = p ++ ns := by
  induction ns generalizing p with
  | nil => simpa [walk] using h.symm
  | cons n ns ih =>
    obtain ⟨hn, hns⟩ := List.forall_mem_cons.mp hp
    obtain ⟨m, hm, hw⟩ := walk_cons_eq_ok_iff.mp h
    rcases enter_eq_ok_iff.mp hm with ⟨rfl, -⟩ | ⟨rfl, -⟩ | ⟨-, -, -, -, rfl⟩
    · exact absurd rfl hn.ne_here
    · exact absurd rfl hn.ne_above
    · rw [ih hns hw, List.append_assoc, List.singleton_append]

theorem routeOf_eq_ok {path : Path} (h : routeOf path = .ok r) : r = path.route := by
  unfold routeOf at h
  split at h
  · cases h
  split at h
  · cases h
  split at h
  · cases h
  · exact (Except.ok.inj h).symm

theorem directory_eq_ok_iff {path : Path} :
    t.directory path = .ok q ↔ t.find path = .ok (q, .dir) := by
  rw [directory]
  rcases t.find path with _ | ⟨p, _ | content⟩ <;> simp

theorem isDirectory_eq_true_iff {path : Path} :
    t.isDirectory path = true ↔ ∃ q, t.directory path = .ok q := by
  rw [isDirectory]
  cases t.directory path <;> simp

theorem write_eq_ok {path : Path} {content : String} (h : t.write path content = .ok t') :
    ∃ r q n, routeOf path = .ok r ∧ t.approach r = .ok q ∧ r.tip = .name n false ∧
      checkName n = .ok () ∧ t.isDir (q ++ [n]) = false ∧
      t' = t.set (q ++ [n]) (.file content) := by
  unfold write at h
  split at h
  · cases h
  rename_i r hr
  split at h
  · cases h
  rename_i q hq
  split at h
  · rename_i n hn
    split at h
    · cases h
    rename_i hc
    split at h
    · cases h
    rename_i hd
    cases h
    exact ⟨r, q, n, hr, hq, hn, hc, by simpa using hd, rfl⟩
  · cases h

theorem makeDirectory_eq_ok (h : t.makeDirectory r = .ok t') :
    ∃ q n slash, t.approach r = .ok q ∧ r.tip = .name n slash ∧ checkName n = .ok () ∧
      t.at? (q ++ [n]) = none ∧ t' = t.set (q ++ [n]) .dir := by
  unfold makeDirectory at h
  split at h
  · cases h
  rename_i q hq
  split at h
  · rename_i n slash hn
    split at h
    · cases h
    rename_i hc
    split at h
    · cases h
    rename_i hd
    cases h
    exact ⟨q, n, slash, hq, hn, hc, by simpa using hd, rfl⟩
  · cases h

theorem isDir_set (h : p ≠ []) : (t.set p e).isDir q = if q = p then e == .dir else t.isDir q := by
  rw [isDir, isDir, at?_set h]
  split <;> rfl

theorem isDir_remove (h : p ≠ []) : (t.remove p).isDir q = (!p.isPrefixOf q && t.isDir q) := by
  rw [isDir, isDir, at?_remove h]
  cases p.isPrefixOf q <;> rfl

theorem isDir_write {path : Path} {content : String} (h : t.write path content = .ok t')
    (p : Place) : t'.isDir p = t.isDir p := by
  obtain ⟨r, q, n, -, -, -, -, hd, rfl⟩ := write_eq_ok h
  rw [isDir_set (by simp)]
  split
  · rename_i he
    rw [he, hd]
    rfl
  · rfl

end FileTree
end Provision
