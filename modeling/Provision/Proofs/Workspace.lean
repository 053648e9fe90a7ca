import Mathlib.Data.List.Nodup
import Mathlib.Data.List.Perm.Subperm
import Mathlib.Data.Nat.Digits.Defs
import Provision.Proofs.FileTree
import Provision.Workspace

/-!
Workspaces that are taken, written into and dropped in any order on one file system. Nothing makes or
removes a directory but a temporary workspace, and that only its own: so its directory stands from
its creation until it is dropped. A file is all that rendering or writing changes.
-/

set_option autoImplicit false

namespace Provision

open FileTree (routeOf checkName)

theorem Text.utf8ByteSize_ofList_le (cs : List Char) :
    (String.ofList cs).utf8ByteSize ≤ 4 * cs.length := by
  induction cs with
  | nil => simp
  | cons c cs ih =>
    have hc := Char.utf8Size_le_four c
    rw [String.ofList_cons, String.utf8ByteSize_append, String.utf8ByteSize_singleton,
      List.length_cons]
    omega

structure Site where
  place : Place
  plain : ∀ n ∈ place, Plain n

@[ext]
structure Suffix where
  text : String
  no_slash : '/' ∉ text.toList

namespace Suffix

def number (n : Nat) : Suffix where
  text := toString n
  no_slash h := by
    rw [Nat.toString_eq_ofList_toDigits, String.toList_ofList] at h
    cases Nat.isDigit_of_mem_toDigits (by decide) (by decide) h

theorem text_number (n : Nat) : (number n).text = String.ofList (Nat.toDigits 10 n) :=
  Nat.toString_eq_ofList_toDigits

theorem number_inj {m n : Nat} (h : number m = number n) : m = n := by
  have ht := congrArg Suffix.text h
  rw [text_number, text_number, String.ofList_inj] at ht
  rw [← Nat.ofDigitChars_ten_toDigits (n := m), ht, Nat.ofDigitChars_ten_toDigits]

end Suffix

namespace Site

variable {s : Site} {x y : Suffix} {t t' : FileTree} {q : Place}

def spot (s : Site) (x : Suffix) : Place := s.place ++ [Workspace.stem ++ x.text]

def dir (s : Site) (x : Suffix) : Path := Workspace.temporaryDir s.place x.text

def workspace (s : Site) (x : Suffix) : Workspace := .temporary (s.dir x)

theorem stem_append_inj {a b : String} (h : Workspace.stem ++ a = Workspace.stem ++ b) : a = b := by
  have hl := congrArg String.toList h
  rw [String.toList_append, String.toList_append] at hl
  exact String.toList_inj.mp (List.append_cancel_left hl)

theorem plain_stem (x : Suffix) : Plain (Workspace.stem ++ x.text) := by
  have hl : (Workspace.stem ++ x.text).toList = 't' :: ("f-harness-".toList ++ x.text.toList) := by
    rw [String.toList_append]
    rfl
  have hne : ∀ n : String, n.toList.head? ≠ some 't' → Workspace.stem ++ x.text ≠ n := by
    rintro n hn rfl
    exact hn (by rw [hl]; rfl)
  refine ⟨hne _ (by decide), hne _ (by decide), hne _ (by decide), ?_⟩
  rw [String.toList_append, List.mem_append, not_or]
  exact ⟨by decide, x.no_slash⟩

theorem route_dir (s : Site) (x : Suffix) :
    (s.dir x).route = ⟨true, s.place, .name (Workspace.stem ++ x.text) false⟩ :=
  Path.route_below s.plain (plain_stem x)

theorem spot_ne_nil (s : Site) (x : Suffix) : s.spot x ≠ [] := by simp [spot]

theorem spot_inj (h : s.spot x = s.spot y) : x = y := by
  obtain ⟨-, hn⟩ := List.append_inj' h rfl
  exact Suffix.ext (stem_append_inj (by simpa using hn))

theorem workspace_inj (h : s.workspace x = s.workspace y) : x = y := by
  injection h with hd
  have hr := congrArg Path.route hd
  rw [route_dir, route_dir] at hr
  injection hr with _ _ hn
  injection hn with hn
  exact Suffix.ext (stem_append_inj hn)

theorem not_isPrefixOf_spot (h : x ≠ y) : (s.spot x).isPrefixOf (s.spot y) = false := by
  rw [Bool.eq_false_iff]
  intro hp
  have hl : (s.spot x).length = (s.spot y).length := by simp [spot]
  exact h (spot_inj ((List.isPrefixOf_iff_prefix.mp hp).eq_of_length hl))

structure Takes (s : Site) (x : Suffix) : Prop where
  route : routeOf (s.dir x) = .ok (s.dir x).route
  name : checkName (Workspace.stem ++ x.text) = .ok ()

def Reached (s : Site) (t : FileTree) : Prop := t.walk [] s.place = .ok s.place

theorem approach_dir_eq_ok_iff : t.approach (s.dir x).route = .ok q ↔ s.Reached t ∧ q = s.place := by
  have ha : t.approach (s.dir x).route = t.walk [] s.place := by
    rw [FileTree.approach, FileTree.start, route_dir, if_pos rfl]
  rw [ha, Reached]
  constructor
  · intro h
    obtain rfl : q = s.place := FileTree.walk_plain s.plain h
    exact ⟨h, rfl⟩
  · rintro ⟨h, rfl⟩
    exact h

theorem directory_dir_eq_ok_iff : t.directory (s.dir x) = .ok q ↔
    s.Takes x ∧ s.Reached t ∧ t.isDir (s.spot x) = true ∧ q = s.spot x := by
  have htip : (s.dir x).route.tip = .name (Workspace.stem ++ x.text) false := by rw [route_dir]
  rw [FileTree.directory_eq_ok_iff, FileTree.isDir, spot]
  constructor
  · intro h
    unfold FileTree.find FileTree.resolve at h
    split at h
    · cases h
    rename_i r hr
    cases FileTree.routeOf_eq_ok hr
    rw [htip] at h
    split at h
    · cases h
    rename_i p hp
    obtain ⟨hreach, rfl⟩ := approach_dir_eq_ok_iff.mp hp
    simp only at h
    split at h
    · cases h
    rename_i hc
    refine ⟨⟨hr, hc⟩, hreach, ?_⟩
    rcases hd : t.at? (s.place ++ [Workspace.stem ++ x.text]) with _ | (_ | content)
    · simp [hd] at h
    · rw [hd] at h
      cases h
      exact ⟨rfl, rfl⟩
    · simp [hd] at h
  · rintro ⟨⟨hr, hc⟩, hreach, hd, rfl⟩
    have hq : t.approach (s.dir x).route = .ok s.place := approach_dir_eq_ok_iff.mpr ⟨hreach, rfl⟩
    rw [FileTree.find, hr]
    simp [FileTree.resolve, hq, htip, hc, eq_of_beq hd]

theorem isDirectory_dir_iff : t.isDirectory (s.dir x) = true ↔
    s.Takes x ∧ s.Reached t ∧ t.isDir (s.spot x) = true := by
  simp [FileTree.isDirectory_eq_true_iff, directory_dir_eq_ok_iff]

theorem isDirectory_congr (hway : ∀ m : Place, m.length ≤ s.place.length → t'.isDir m = t.isDir m)
    (hx : t'.isDir (s.spot x) = t.isDir (s.spot x)) :
    t'.isDirectory (s.dir x) = t.isDirectory (s.dir x) := by
  have hr : s.Reached t' ↔ s.Reached t := by
    constructor
    · exact FileTree.walk_mono fun m hm hd => hway m (by simpa using hm) ▸ hd
    · exact FileTree.walk_mono fun m hm hd => (hway m (by simpa using hm)).trans hd
  rw [Bool.eq_iff_iff, isDirectory_dir_iff, isDirectory_dir_iff, hr, hx]

theorem ne_spot {m : Place} (h : m.length ≤ s.place.length) : m ≠ s.spot x := by
  rintro rfl
  simp only [spot, List.length_append, List.length_singleton] at h
  omega

theorem not_isPrefixOf_of_length {m : Place} (h : m.length ≤ s.place.length) :
    (s.spot x).isPrefixOf m = false := by
  rw [Bool.eq_false_iff]
  intro hp
  have hl := (List.isPrefixOf_iff_prefix.mp hp).length_le
  simp only [spot, List.length_append, List.length_singleton] at hl
  omega

def root : Site := ⟨Workspace.root, by
  rw [Workspace.root, List.forall_mem_singleton]
  exact ⟨by decide, by decide, by decide, by decide⟩⟩

theorem takes_root {x : Suffix} (hsize : x.text.utf8ByteSize ≤ 244)
    (hnul : Char.ofNat 0 ∉ x.text.toList) : root.Takes x := by
  have hname : (Workspace.stem ++ x.text).utf8ByteSize = 11 + x.text.utf8ByteSize :=
    String.utf8ByteSize_append
  have htext : (root.dir x).text = "/tmp/tf-harness-" ++ x.text := by
    rw [dir, Workspace.temporaryDir, Path.below, ← String.toList_inj, String.toList_ofList,
      String.toList_append]
    simp [root, Workspace.root, Workspace.stem]
  have hlong : (root.dir x).text.utf8ByteSize = 16 + x.text.utf8ByteSize := by
    rw [htext]
    exact String.utf8ByteSize_append
  have hlist : (root.dir x).text.toList = "/tmp/tf-harness-".toList ++ x.text.toList := by
    rw [htext, String.toList_append]
  refine ⟨?_, by rw [checkName, if_neg (by omega)]⟩
  rw [routeOf, hlist, if_neg (by simpa using hnul), if_neg (by simp), if_neg (by omega)]

theorem takes_number {n : Nat} (h : n < 10 ^ 60) : root.Takes (.number n) := by
  have hl := (Nat.length_toDigits_le_iff (k := 60) (b := 10) (by decide) (by decide)).mpr h
  have hu := Text.utf8ByteSize_ofList_le (Nat.toDigits 10 n)
  refine takes_root (by rw [Suffix.text_number]; omega) fun hnul => ?_
  rw [Suffix.text_number, String.toList_ofList] at hnul
  cases Nat.isDigit_of_mem_toDigits (by decide) (by decide) hnul

end Site

namespace Workspace

variable {s : Site} {x y : Suffix} {t t' : FileTree} {w : Workspace} {file content template : String}
  {vars : List (String × String)} {p : Path}

theorem ofDirectory_eq_ok_iff {dir : Path} :
    ofDirectory t dir = .ok w ↔ t.isDirectory dir = true ∧ w = .existing dir := by
  rw [ofDirectory]
  by_cases h : t.isDirectory dir = true <;> simp [h, eq_comm]

theorem createTemporary_of_free (htakes : s.Takes x) (hreach : s.Reached t)
    (hat : t.at? (s.spot x) = none) :
    createTemporary s.place t x.text = (.ok (s.workspace x), t.set (s.spot x) .dir) := by
  have hdir : temporaryDir s.place x.text = s.dir x := rfl
  have happ : t.approach (s.dir x).route = .ok s.place :=
    Site.approach_dir_eq_ok_iff.mpr ⟨hreach, rfl⟩
  have htip : (s.dir x).route.tip = .name (stem ++ x.text) false := by rw [Site.route_dir]
  have hm : t.makeDirectory (s.dir x).route = .ok (t.set (s.spot x) .dir) := by
    rw [Site.spot] at hat ⊢
    simp [FileTree.makeDirectory, happ, htip, htakes.name, hat]
  rw [createTemporary, hdir, htakes.route, Except.bind, hm]
  rfl

theorem createTemporary_cases (s : Site) (t : FileTree) (x : Suffix) :
    (∃ e, createTemporary s.place t x.text = (.error e, t)) ∨
      s.Takes x ∧ s.Reached t ∧ t.at? (s.spot x) = none ∧
        createTemporary s.place t x.text = (.ok (s.workspace x), t.set (s.spot x) .dir) := by
  have hdir : temporaryDir s.place x.text = s.dir x := rfl
  cases hr : routeOf (s.dir x) with
  | error e =>
    left
    rw [createTemporary, hdir, hr]
    exact ⟨_, rfl⟩
  | ok r =>
    cases FileTree.routeOf_eq_ok hr
    cases hm : t.makeDirectory (s.dir x).route with
    | error e =>
      left
      rw [createTemporary, hdir, hr, Except.bind, hm]
      exact ⟨_, rfl⟩
    | ok t' =>
      obtain ⟨q, n, slash, hq, hn, hc, ha, -⟩ := FileTree.makeDirectory_eq_ok hm
      obtain ⟨hreach, rfl⟩ := Site.approach_dir_eq_ok_iff.mp hq
      rw [Site.route_dir] at hn
      cases hn
      have htakes : s.Takes x := ⟨hr, hc⟩
      exact .inr ⟨htakes, hreach, ha, createTemporary_of_free htakes hreach ha⟩

theorem tree_of_not_created {e : Failure}
    (h : createTemporary s.place t x.text = (.error e, t')) : t' = t := by
  rcases createTemporary_cases s t x with ⟨d, hd⟩ | ⟨-, -, -, hok⟩
  · rw [hd] at h
    exact (congrArg Prod.snd h).symm
  · rw [hok] at h
    cases h

theorem isDirectory_created (h : createTemporary s.place t x.text = (.ok w, t')) :
    w = s.workspace x ∧ t.isDirectory (s.dir x) = false ∧ t'.isDirectory (s.dir x) = true ∧
      ∀ y, y ≠ x → t'.isDirectory (s.dir y) = t.isDirectory (s.dir y) := by
  rcases createTemporary_cases s t x with ⟨e, he⟩ | ⟨htakes, hreach, hat, hok⟩
  · rw [he] at h
    cases h
  rw [hok] at h
  cases h
  have hway : ∀ m : Place, m.length ≤ s.place.length → (t.set (s.spot x) .dir).isDir m = t.isDir m :=
    fun m hm => by rw [FileTree.isDir_set (s.spot_ne_nil x), if_neg (Site.ne_spot hm)]
  have hreach' : s.Reached (t.set (s.spot x) .dir) :=
    FileTree.walk_mono (fun m hm hd => (hway m (by simpa using hm)).trans hd) hreach
  refine ⟨rfl, ?_, ?_, fun y hy => Site.isDirectory_congr hway ?_⟩
  · rw [Bool.eq_false_iff]
    intro hd
    have hx := (Site.isDirectory_dir_iff.mp hd).2.2
    simp [FileTree.isDir, hat] at hx
  · refine Site.isDirectory_dir_iff.mpr ⟨htakes, hreach', ?_⟩
    rw [FileTree.isDir_set (s.spot_ne_nil x), if_pos rfl]
    rfl
  · rw [FileTree.isDir_set (s.spot_ne_nil x), if_neg fun he => hy (Site.spot_inj he)]

/-- Dropping a temporary workspace takes its directory away and no other one. -/
theorem isDirectory_dropped (s : Site) (x : Suffix) (t : FileTree) :
    ((s.workspace x).drop t).isDirectory (s.dir x) = false ∧
      ∀ y, y ≠ x → ((s.workspace x).drop t).isDirectory (s.dir y) = t.isDirectory (s.dir y) := by
  cases hd : t.directory (s.dir x) with
  | error e =>
    have hsame : (s.workspace x).drop t = t := by rw [Site.workspace, drop, hd]
    rw [hsame]
    exact ⟨by rw [FileTree.isDirectory, hd], fun _ _ => rfl⟩
  | ok q =>
    obtain ⟨-, -, -, rfl⟩ := Site.directory_dir_eq_ok_iff.mp hd
    have hdrop : (s.workspace x).drop t = t.remove (s.spot x) := by
      rw [Site.workspace, drop, hd]
    rw [hdrop]
    refine ⟨?_, fun y hy => Site.isDirectory_congr (fun m hm => ?_) ?_⟩
    · rw [Bool.eq_false_iff]
      intro hx
      have hp : (s.spot x).isPrefixOf (s.spot x) = true := by simp
      have hs := (Site.isDirectory_dir_iff.mp hx).2.2
      rw [FileTree.isDir_remove (s.spot_ne_nil x), hp] at hs
      cases hs
    · rw [FileTree.isDir_remove (s.spot_ne_nil x), Site.not_isPrefixOf_of_length hm]
      rfl
    · rw [FileTree.isDir_remove (s.spot_ne_nil x), Site.not_isPrefixOf_spot hy.symm]
      rfl

theorem freshNumber_spec (t : FileTree) : t.at? (temporaryPlace (freshNumber t)) = none ∧
    freshNumber t ≤ t.entries.length := by
  rw [freshNumber]
  cases hf : (List.range (t.entries.length + 1)).find? fun n => (t.at? (temporaryPlace n)).isNone with
  | some n =>
    have hn := List.find?_some hf
    have hr := List.mem_range.mp (List.mem_of_find?_eq_some hf)
    exact ⟨by simpa using hn, Nat.lt_succ_iff.mp hr⟩
  | none =>
    exfalso
    rw [List.find?_eq_none] at hf
    have hsub : (List.range (t.entries.length + 1)).map temporaryPlace ⊆ t.entries.map Prod.fst := by
      intro p hp
      obtain ⟨n, hn, rfl⟩ := List.mem_map.mp hp
      have hne : temporaryPlace n ≠ [] := Site.spot_ne_nil .root (.number n)
      exact FileTree.mem_places_of_at? hne fun hat => hf n hn (by rw [hat]; rfl)
    have hnd : ((List.range (t.entries.length + 1)).map temporaryPlace).Nodup :=
      List.nodup_range.map fun m n h =>
        Suffix.number_inj (Site.spot_inj (s := .root) (x := .number m) (y := .number n) h)
    have hle := (List.subperm_of_subset hnd hsub).length_le
    simp at hle

theorem createTemporary_freshNumber (hd : t.isDir root = true) (hl : t.entries.length < 10 ^ 60) :
    createTemporary root t (toString (freshNumber t)) =
      (.ok (makeTemporary t).1, (makeTemporary t).2) := by
  obtain ⟨hfree, hle⟩ := freshNumber_spec t
  have hreach : Site.root.Reached t := by
    have hat : t.at? ["tmp"] = some .dir := eq_of_beq hd
    have hname : checkName "tmp" = .ok () := rfl
    simp [Site.Reached, Site.root, root, FileTree.walk, FileTree.enter, hname, hat]
  have hc := createTemporary_of_free (Site.takes_number (Nat.lt_of_le_of_lt hle hl)) hreach hfree
  have hs : (Suffix.number (freshNumber t)).text = toString (freshNumber t) := rfl
  have hr : Site.root.place = root := rfl
  rw [hs, hr] at hc
  have hw : (makeTemporary t).1 = Site.root.workspace (.number (freshNumber t)) := rfl
  rw [hw, makeTemporary, hc]

theorem isDir_write (w : Workspace) (t : FileTree) (file content : String) (q : Place) :
    (w.write t file content).2.isDir q = t.isDir q := by
  unfold write
  split
  · rename_i t' hw
    exact FileTree.isDir_write hw q
  · rfl

theorem isDir_render (w : Workspace) (t : FileTree) (file template : String)
    (vars : List (String × String)) (q : Place) :
    (w.render t file template vars).2.isDir q = t.isDir q := by
  unfold render
  split
  · exact isDir_write w t file _ q
  · rfl

end Workspace

structure Workbench where
  tree : FileTree
  held : List Workspace

namespace Workbench

inductive Op where
  | existing (dir : Path)
  | temporary (x : Suffix)
  | render (w : Workspace) (file template : String) (vars : List (String × String))
  | write (w : Workspace) (file content : String)
  | drop (w : Workspace)

def step (s : Site) (b : Workbench) : Op → Workbench
  | .existing dir =>
    match Workspace.ofDirectory b.tree dir with
    | .ok w => { b with held := w :: b.held }
    | .error _ => b
  | .temporary x =>
    match Workspace.createTemporary s.place b.tree x.text with
    | (.ok w, t) => ⟨t, w :: b.held⟩
    | (.error _, t) => { b with tree := t }
  | .render w file template vars =>
    if w ∈ b.held then { b with tree := (w.render b.tree file template vars).2 } else b
  | .write w file content =>
    if w ∈ b.held then { b with tree := (w.write b.tree file content).2 } else b
  | .drop w => if w ∈ b.held then ⟨w.drop b.tree, b.held.erase w⟩ else b

def run (s : Site) (b : Workbench) (ops : List Op) : Workbench := ops.foldl (step s) b

variable {s : Site} {x : Suffix} {b b' : Workbench} {op : Op} {ops : List Op} {w : Workspace}
  {d : Suffix → Nat}

/-- The temporary workspace is in use, counted as often as it was taken. -/
def uses (s : Site) (x : Suffix) (b : Workbench) : Nat := b.held.count (s.workspace x)

def stands (s : Site) (x : Suffix) (b : Workbench) : Bool := b.tree.isDirectory (s.dir x)

/-- What an operation is to one temporary workspace: nothing, or that it is made or dropped. -/
inductive Fate (s : Site) (x : Suffix) (b b' : Workbench) : Op → Prop where
  | unconcerned {op : Op} (uses : b'.uses s x = b.uses s x) (stands : b'.stands s x = b.stands s x) :
    Fate s x b b' op
  | made (before : b.stands s x = false) (uses : b'.uses s x = b.uses s x + 1)
    (stands : b'.stands s x = true) : Fate s x b b' (.temporary x)
  | dropped (before : 0 < b.uses s x) (uses : b'.uses s x = b.uses s x - 1)
    (stands : b'.stands s x = false) : Fate s x b b' (.drop (s.workspace x))

/-- Temporary workspaces in use were made here. Their directories stand, and besides them those that
stood there before: `d` counts them for each name. -/
structure Sound (s : Site) (d : Suffix → Nat) (b : Workbench) : Prop where
  own : ∀ dir, .temporary dir ∈ b.held → ∃ x, dir = s.dir x
  balance : ∀ x, (b.stands s x).toNat = b.uses s x + d x

theorem Fate.of_dirs (huses : b'.held = b.held) (hd : ∀ p, b'.tree.isDir p = b.tree.isDir p) :
    Fate s x b b' op :=
  .unconcerned (by rw [uses, uses, huses]) (Site.isDirectory_congr (fun m _ => hd m) (hd _))

theorem fate_step (h : ∀ dir, .temporary dir ∈ b.held → ∃ x, dir = s.dir x) (x : Suffix) (op : Op) :
    Fate s x b (step s b op) op := by
  cases op with
  | existing dir =>
    rw [step]
    cases hw : Workspace.ofDirectory b.tree dir with
    | error e => exact .unconcerned rfl rfl
    | ok w =>
      obtain ⟨-, rfl⟩ := Workspace.ofDirectory_eq_ok_iff.mp hw
      exact .unconcerned (List.count_cons_of_ne (by simp [Site.workspace])) rfl
  | temporary y =>
    rw [step]
    rcases hc : Workspace.createTemporary s.place b.tree y.text with ⟨_ | w, t⟩
    · obtain rfl := Workspace.tree_of_not_created hc
      exact .unconcerned rfl rfl
    · obtain ⟨rfl, hbefore, hafter, hothers⟩ := Workspace.isDirectory_created hc
      by_cases hy : y = x
      · subst hy
        exact .made hbefore List.count_cons_self hafter
      · exact .unconcerned (List.count_cons_of_ne (mt Site.workspace_inj hy)) (hothers x (Ne.symm hy))
  | render w file template vars =>
    rw [step]
    split
    · exact .of_dirs rfl (Workspace.isDir_render w b.tree file template vars)
    · exact .unconcerned rfl rfl
  | write w file content =>
    rw [step]
    split
    · exact .of_dirs rfl (Workspace.isDir_write w b.tree file content)
    · exact .unconcerned rfl rfl
  | drop w =>
    rw [step]
    split
    · rename_i hw
      cases w with
      | existing dir =>
        exact .unconcerned (List.count_erase_of_ne (by simp [Site.workspace])) rfl
      | temporary dir =>
        obtain ⟨y, rfl⟩ := h dir hw
        obtain ⟨hgone, hothers⟩ := Workspace.isDirectory_dropped s y b.tree
        by_cases hy : y = x
        · subst hy
          exact .dropped (List.count_pos_iff.mpr hw) List.count_erase_self hgone
        · exact .unconcerned (List.count_erase_of_ne (mt Site.workspace_inj (Ne.symm hy)))
            (hothers x (Ne.symm hy))
    · exact .unconcerned rfl rfl

theorem held_step (h : w ∈ (step s b op).held) :
    w ∈ b.held ∨ (∃ dir, w = .existing dir) ∨ ∃ x, w = s.workspace x := by
  cases op with
  | existing dir =>
    rw [step] at h
    split at h
    · rename_i v hv
      obtain ⟨-, rfl⟩ := Workspace.ofDirectory_eq_ok_iff.mp hv
      exact (List.mem_cons.mp h).symm.imp_right fun he => .inl ⟨dir, he⟩
    · exact .inl h
  | temporary x =>
    rw [step] at h
    split at h
    · rename_i v t hv
      obtain ⟨rfl, -⟩ := Workspace.isDirectory_created hv
      exact (List.mem_cons.mp h).symm.imp_right fun he => .inr ⟨x, he⟩
    · exact .inl h
  | render v file template vars =>
    rw [step] at h
    split at h <;> exact .inl h
  | write v file content =>
    rw [step] at h
    split at h <;> exact .inl h
  | drop v =>
    rw [step] at h
    split at h
    · exact .inl (List.mem_of_mem_erase h)
    · exact .inl h

theorem Sound.step (h : b.Sound s d) (op : Op) : (b.step s op).Sound s d where
  own dir hdir := by
    rcases held_step hdir with hd | ⟨d, he⟩ | ⟨x, he⟩
    · exact h.own dir hd
    · cases he
    · exact ⟨x, Workspace.temporary.inj he⟩
  balance x := by
    have hb := h.balance x
    cases fate_step h.own x op with
    | unconcerned hu hs => rw [hu, hs, hb]
    | made before hu hs =>
      rw [before, Bool.toNat_false] at hb
      rw [hu, hs, Bool.toNat_true]
      omega
    | dropped before hu hs =>
      -- only one stands under a name, so it is the one that is dropped
      have hle := Bool.toNat_le (b.stands s x)
      rw [hu, hs, Bool.toNat_false]
      omega

theorem Sound.run (h : b.Sound s d) (ops : List Op) : (b.run s ops).Sound s d := by
  induction ops generalizing b with
  | nil => exact h
  | cons op ops ih => exact ih (h.step op)

example :
    let w := Site.root.workspace (.number 0)
    let ops := [.temporary (.number 0), .write w "main.tf" "{}", .existing w.path]
    (run .root ⟨.fresh, []⟩ ops).tree.entries.length = 4 ∧
      (run .root ⟨.fresh, []⟩ (ops ++ [.drop w])).tree.entries = FileTree.fresh.entries := by
  decide +kernel

end Workbench
end Provision
