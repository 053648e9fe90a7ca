import Mathlib.Data.List.Flatten
import Provision.StateDocument

/-!
What the search for a resource finds in a tree of modules, against all that the tree lists. The
first resource of a type and name hides the others in its module and all below it, also if it has
no values to give.
-/

set_option autoImplicit false

namespace Provision.StateDocument

variable {t n : String} {m c x r v : Json}

theorem findFirst?_eq (t n : String) (xs : List Json) :
    findFirst? t n xs = xs.findSome? (find? t n) := by
  induction xs with
  | nil => rfl
  | cons x xs ih =>
    rw [findFirst?, List.findSome?_cons, ih]
    cases find? t n x <;> rfl

theorem findMember?_eq (t n : String) (ms : List (String × Json)) :
    findMember? t n ms = (Json.asArray (ms.lookup "child_modules")).findSome? (find? t n) := by
  induction ms with
  | nil => rfl
  | cons m ms ih =>
    obtain ⟨k, v⟩ := m
    by_cases hk : k = "child_modules"
    · subst hk
      cases v with
      | arr xs => simp [findMember?, Json.asArray, findFirst?_eq]
      | _ => simp [findMember?, Json.asArray]
    · have hl : ("child_modules" == k) = false := by simpa using Ne.symm hk
      rw [List.lookup_cons, hl, ← ih]
      cases v <;> simp [findMember?, hk]

theorem children_obj (ms : List (String × Json)) :
    children (.obj ms) = Json.asArray (ms.lookup "child_modules") := by
  simp [children, Json.dig, Json.step]

theorem children_eq_nil (hm : ∀ ms, m ≠ .obj ms) : children m = [] := by
  have hn : Json.natural64? "child_modules" = none := by decide
  cases m with
  | obj ms => exact absurd rfl (hm ms)
  | arr xs => simp [children, Json.dig, Json.step, hn, Json.asArray]
  | _ => rfl

theorem resources_eq_nil (hm : ∀ ms, m ≠ .obj ms) : resources m = [] := by
  have hn : Json.natural64? "resources" = none := by decide
  cases m with
  | obj ms => exact absurd rfl (hm ms)
  | arr xs => simp [resources, Json.dig, Json.step, hn, Json.asArray]
  | _ => rfl

theorem find?_of_own (h : (resources m).find? (isNamed t n) = some r) :
    find? t n m = r.member? "values" := by
  cases m with
  | obj ms => rw [find?, h]
  | _ => simp [resources_eq_nil] at h

theorem find?_of_none (h : (resources m).find? (isNamed t n) = none) :
    find? t n m = (children m).findSome? (find? t n) := by
  cases m with
  | obj ms => rw [find?, h, children_obj, findMember?_eq]
  | _ => simp [find?, children_eq_nil]

theorem sizeOf_lt_of_mem_children (h : c ∈ children m) : sizeOf c < sizeOf m := by
  cases m with
  | obj ms =>
    rw [children_obj] at h
    cases hl : ms.lookup "child_modules" with
    | none => simp [hl, Json.asArray] at h
    | some j =>
      cases j with
      | arr xs =>
        rw [hl] at h
        obtain ⟨before, after, rfl, -⟩ := List.lookup_eq_some_iff.mp hl
        have hc : sizeOf c < sizeOf xs := List.sizeOf_lt_of_mem h
        have hm : sizeOf ("child_modules", Json.arr xs) <
            sizeOf (before ++ ("child_modules", Json.arr xs) :: after) :=
          List.sizeOf_lt_of_mem (by simp)
        simp only [Prod.mk.sizeOf_spec, Json.arr.sizeOf_spec] at hm
        simp only [Json.obj.sizeOf_spec]
        omega
      | _ => simp [hl, Json.asArray] at h
  | _ => simp [children_eq_nil] at h

theorem tree_induction {P : Json → Prop} (h : ∀ m, (∀ c ∈ children m, P c) → P m) (m : Json) : P m := by
  induction hs : sizeOf m using Nat.strongRecOn generalizing m with
  | ind k ih =>
    refine h m fun c hc => ?_
    have hlt := sizeOf_lt_of_mem_children hc
    exact ih (sizeOf c) (hs ▸ hlt) c rfl

/-- The modules of a tree, a module before those below it. -/
def modules (m : Json) : List Json :=
  m :: (children m).attach.flatMap fun c => modules c.1
termination_by sizeOf m
decreasing_by exact sizeOf_lt_of_mem_children c.2

theorem modules_eq (m : Json) : modules m = m :: (children m).flatMap modules := by
  rw [modules]
  simp

inductive Below : Json → Json → Prop
  | root (m : Json) : Below m m
  | child {m c x : Json} : c ∈ children m → Below c x → Below m x

theorem mem_modules_iff : x ∈ modules m ↔ Below m x := by
  constructor
  · intro h
    induction m using tree_induction with
    | h m ih =>
      rw [modules_eq, List.mem_cons, List.mem_flatMap] at h
      rcases h with rfl | ⟨c, hc, hx⟩
      · exact .root _
      · exact .child hc (ih c hc hx)
  · intro h
    induction h with
    | root m =>
      rw [modules_eq]
      exact List.mem_cons_self
    | child hc _ ih =>
      rw [modules_eq]
      exact List.mem_cons_of_mem _ (List.mem_flatMap.mpr ⟨_, hc, ih⟩)

def namesakes (t n : String) (m : Json) : List Json :=
  ((modules m).flatMap resources).filter (isNamed t n)

theorem mem_namesakes_iff : r ∈ namesakes t n m ↔
    ∃ x, Below m x ∧ r ∈ resources x ∧ isNamed t n r = true := by
  rw [namesakes, List.mem_filter, List.mem_flatMap]
  constructor
  · rintro ⟨⟨x, hx, hr⟩, hn⟩
    exact ⟨x, mem_modules_iff.mp hx, hr, hn⟩
  · rintro ⟨x, hx, hr, hn⟩
    exact ⟨⟨x, mem_modules_iff.mpr hx, hr⟩, hn⟩

theorem namesakes_eq (t n : String) (m : Json) : namesakes t n m =
    (resources m).filter (isNamed t n) ++ (children m).flatMap (namesakes t n) := by
  rw [namesakes, modules_eq, List.flatMap_cons, List.filter_append, List.flatMap_assoc,
    List.filter_flatMap]
  rfl

def first? (t n : String) (m : Json) : Option Json :=
  (namesakes t n m).findSome? (Json.member? "values")

/-- The first resource of a type and name in each module, but for modules below another such. -/
def shown (t n : String) (m : Json) : List Json :=
  match (resources m).find? (isNamed t n) with
  | some r => [r]
  | none => (children m).attach.flatMap fun c => shown t n c.1
termination_by sizeOf m
decreasing_by exact sizeOf_lt_of_mem_children c.2

theorem shown_of_own (h : (resources m).find? (isNamed t n) = some r) : shown t n m = [r] := by
  rw [shown, h]

theorem shown_of_none (h : (resources m).find? (isNamed t n) = none) :
    shown t n m = (children m).flatMap (shown t n) := by
  rw [shown, h]
  simp

inductive Shows (t n : String) : Json → Json → Prop
  | own {m r : Json} : (resources m).find? (isNamed t n) = some r → Shows t n m r
  | deeper {m c r : Json} : (∀ q ∈ resources m, isNamed t n q = false) → c ∈ children m →
    Shows t n c r → Shows t n m r

theorem find?_eq_none_iff : (resources m).find? (isNamed t n) = none ↔
    ∀ q ∈ resources m, isNamed t n q = false := by
  simp [List.find?_eq_none]

theorem mem_shown_iff : r ∈ shown t n m ↔ Shows t n m r := by
  constructor
  · intro h
    induction m using tree_induction with
    | h m ih =>
      cases ho : (resources m).find? (isNamed t n) with
      | some q =>
        rw [shown_of_own ho, List.mem_singleton] at h
        exact .own (h ▸ ho)
      | none =>
        rw [shown_of_none ho, List.mem_flatMap] at h
        obtain ⟨c, hc, hr⟩ := h
        exact .deeper (find?_eq_none_iff.mp ho) hc (ih c hc hr)
  · intro h
    induction h with
    | own ho => rw [shown_of_own ho]; exact List.mem_singleton_self _
    | deeper hn hc _ ih =>
      rw [shown_of_none (find?_eq_none_iff.mpr hn), List.mem_flatMap]
      exact ⟨_, hc, ih⟩

theorem shown_sublist_namesakes (t n : String) (m : Json) :
    (shown t n m).Sublist (namesakes t n m) := by
  induction m using tree_induction with
  | h m ih =>
    rw [namesakes_eq]
    cases ho : (resources m).find? (isNamed t n) with
    | some r =>
      have hr : r ∈ (resources m).filter (isNamed t n) :=
        List.mem_filter.mpr ⟨List.mem_of_find?_eq_some ho, List.find?_some ho⟩
      rw [shown_of_own ho]
      exact List.singleton_sublist.mpr (List.mem_append_left _ hr)
    | none =>
      rw [shown_of_none ho]
      exact (List.Sublist.flatMap_right _ ih).trans (List.sublist_append_right _ _)

theorem findSome?_flatMap {f : Json → Option Json} {g : Json → List Json} (xs : List Json) :
    (xs.flatMap g).findSome? f = xs.findSome? fun x => (g x).findSome? f := by
  induction xs with
  | nil => rfl
  | cons x xs ih =>
    rw [List.flatMap_cons, List.findSome?_append, List.findSome?_cons, ih]
    cases (g x).findSome? f <;> rfl

theorem findSome?_congr {f g : Json → Option Json} {xs : List Json} (h : ∀ x ∈ xs, f x = g x) :
    xs.findSome? f = xs.findSome? g := by
  induction xs with
  | nil => rfl
  | cons x xs ih =>
    obtain ⟨hx, hxs⟩ := List.forall_mem_cons.mp h
    rw [List.findSome?_cons, List.findSome?_cons, hx, ih hxs]

theorem find?_eq_findSome?_shown (t n : String) (m : Json) :
    find? t n m = (shown t n m).findSome? (Json.member? "values") := by
  induction m using tree_induction with
  | h m ih =>
    cases ho : (resources m).find? (isNamed t n) with
    | some r => simp [find?_of_own ho, shown_of_own ho]
    | none => rw [find?_of_none ho, shown_of_none ho, findSome?_flatMap, findSome?_congr ih]

/-- The module's first resource of a type and name has no values, but another in its tree has. -/
def Hides (t n : String) (m : Json) : Prop :=
  ∃ r, (resources m).find? (isNamed t n) = some r ∧ r.member? "values" = none ∧
    ∃ q ∈ namesakes t n m, q.member? "values" ≠ none

theorem first?_ne_none_iff : first? t n m ≠ none ↔
    ∃ q ∈ namesakes t n m, q.member? "values" ≠ none := by
  simp [first?, List.findSome?_eq_none_iff]

theorem find?_of_hides (h : Hides t n m) : find? t n m = none ∧ first? t n m ≠ none := by
  obtain ⟨r, ho, hv, hq⟩ := h
  exact ⟨by rw [find?_of_own ho, hv], first?_ne_none_iff.mpr hq⟩

theorem first?_of_own (ho : (resources m).find? (isNamed t n) = some r)
    (hv : r.member? "values" = some v) : first? t n m = some v := by
  obtain ⟨hr, before, after, hs, hb⟩ := List.find?_eq_some_iff_append.mp ho
  have hnil : before.filter (isNamed t n) = [] := List.filter_eq_nil_iff.mpr (by simpa using hb)
  have hf : (resources m).filter (isNamed t n) = r :: after.filter (isNamed t n) := by
    rw [hs, List.filter_append, hnil, List.filter_cons_of_pos hr, List.nil_append]
  rw [first?, namesakes_eq, hf, List.cons_append, List.findSome?_cons, hv]

theorem first?_of_none (ho : (resources m).find? (isNamed t n) = none) :
    first? t n m = (children m).findSome? (first? t n) := by
  have hf : (resources m).filter (isNamed t n) = [] :=
    List.filter_eq_nil_iff.mpr (by simpa using find?_eq_none_iff.mp ho)
  rw [first?, namesakes_eq, hf, List.nil_append, findSome?_flatMap]
  rfl

theorem find?_eq_first? (h : ∀ x, Below m x → ¬ Hides t n x) : find? t n m = first? t n m := by
  induction m using tree_induction with
  | h m ih =>
    cases ho : (resources m).find? (isNamed t n) with
    | some r =>
      rw [find?_of_own ho]
      cases hv : r.member? "values" with
      | some v => rw [first?_of_own ho hv]
      | none =>
        have hn : ¬ first? t n m ≠ none := fun hne =>
          h m (.root m) ⟨r, ho, hv, first?_ne_none_iff.mp hne⟩
        exact (Decidable.not_not.mp hn).symm
    | none =>
      have hc : ∀ c ∈ children m, find? t n c = first? t n c :=
        fun c hc => ih c hc fun x hx => h x (.child hc hx)
      rw [find?_of_none ho, first?_of_none ho, findSome?_congr hc]

theorem Below.trans (h : Below m c) (hx : Below c x) : Below m x := by
  induction h with
  | root _ => exact hx
  | child hc _ ih => exact .child hc (ih hx)

def root? (s : StateDocument) : Option Json := s.document.dig ["values", "root_module"]

/-- What is found are the values of the first resource shown that has any. In a tree and in all its
parts these are the first values there are, exactly if no module hides any. -/
theorem resource?_of_tree (s : StateDocument) (t n : String) :
    (∀ v, s.resource? t n = some v ↔ ∃ m earlier r later, s.root? = some m ∧
      shown t n m = earlier ++ r :: later ∧ r.member? "values" = some v ∧
      ∀ q ∈ earlier, q.member? "values" = none) ∧
    (∀ m, (shown t n m).Sublist (namesakes t n m) ∧ ∀ r, (r ∈ shown t n m ↔ Shows t n m r) ∧
      (r ∈ namesakes t n m ↔ ∃ x, Below m x ∧ r ∈ resources x ∧ isNamed t n r = true)) ∧
    ∀ m ∈ s.root?, s.resource? t n = find? t n m ∧
      ((∀ x, Below m x → find? t n x = first? t n x) ↔ ∀ x, Below m x → ¬ Hides t n x) := by
  refine ⟨fun v => ?_,
    fun m => ⟨shown_sublist_namesakes t n m, fun r => ⟨mem_shown_iff, mem_namesakes_iff⟩⟩,
    fun m hm => ⟨?_, fun h x hx hh => ?_, fun h x hx => ?_⟩⟩
  · rw [resource?, Option.bind_eq_some_iff]
    simp only [find?_eq_findSome?_shown, List.findSome?_eq_some_iff]
    constructor
    · rintro ⟨m, hm, earlier, r, later, hs, hv, he⟩
      exact ⟨m, earlier, r, later, hm, hs, hv, he⟩
    · rintro ⟨m, earlier, r, later, hm, hs, hv, he⟩
      exact ⟨m, hm, earlier, r, later, hs, hv, he⟩
  · have hr : s.document.dig ["values", "root_module"] = some m := hm
    rw [resource?, hr, Option.bind_some]
  · obtain ⟨hn, hf⟩ := find?_of_hides hh
    exact hf (h x hx ▸ hn)
  · exact find?_eq_first? fun y hy => h y (hx.trans hy)

/-- A resource without values in the root module, over one of its type and name that has some. -/
theorem resource?_of_hidden_child :
    let bare : Json := .obj [("name", .str "n"), ("type", .str "t")]
    let full : Json := .obj [("name", .str "n"), ("type", .str "t"), ("values", .obj [("a", .ofInt 1)])]
    let child : Json := .obj [("resources", .arr [full])]
    let root : Json := .obj [("child_modules", .arr [child]), ("resources", .arr [bare])]
    let s : StateDocument := ⟨.obj [("values", .obj [("root_module", root)])]⟩
    s.resource? "t" "n" = none ∧ child ∈ children root ∧ full ∈ resources child ∧
      first? "t" "n" root = some (.obj [("a", .ofInt 1)]) := by
  intro bare full child root s
  have hroot : children root = [child] := by decide +kernel
  have hchild : children child = [] := by decide +kernel
  have hn : namesakes "t" "n" root = [bare, full] := by
    rw [namesakes_eq, hroot, List.flatMap_singleton, namesakes_eq, hchild]
    decide +kernel
  refine ⟨by decide +kernel, by simp [hroot], by decide +kernel, ?_⟩
  rw [first?, hn]
  decide +kernel

end Provision.StateDocument
