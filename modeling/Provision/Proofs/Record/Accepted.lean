import Provision.Proofs.Json.InOrder
import Provision.Proofs.Record.RoundTrip

set_option autoImplicit false

namespace Provision

variable {α ρ : Type}

namespace Record

def Restored [Encode α] [Decode α] (v : α) : Prop := decode (encode v).written = some v

theorem restored [Encode α] [Decode α] [Restores α] (v : α) : Restored v :=
  Restores.decode_written v

def SomeRestored [Encode α] [Decode α] (o : Option α) : Prop := ∀ v, o = some v → Restored v

@[simp] theorem someRestored [Encode α] [Decode α] [Restores α] (o : Option α) : SomeRestored o :=
  fun v _ => restored v

theorem decodeEntries_written [Encode α] [Decode α] {ms : List (String × α)}
    (h : ∀ m ∈ ms, Restored m.2) :
    decodeEntries (Json.writtenMembers (encodeEntries ms)) = some ms := by
  induction ms with
  | nil => rfl
  | cons m ms ih =>
    obtain ⟨hm, hs⟩ := List.forall_mem_cons.mp h
    rw [Restored] at hm
    simp [encodeEntries, Json.writtenMembers, decodeEntries, hm, ih hs]

theorem restored_assoc [Encode α] [Decode α] {m : Assoc α} (h : ∀ e ∈ m.entries, Restored e.2) :
    Restored m := by
  have hd := congrArg (Option.map Assoc.ofList) (decodeEntries_written h)
  rw [Option.map_some, Assoc.ofList_entries] at hd
  exact hd

theorem exists_of_mem_decodeEntries [Decode α] {ms : List (String × Written)}
    {es : List (String × α)} (h : decodeEntries ms = some es) :
    ∀ e ∈ es, ∃ w : Written, decode w = some e.2 := by
  induction ms generalizing es with
  | nil =>
    cases h
    simp
  | cons m ms ih =>
    obtain ⟨x, hx, h⟩ := Option.bind_eq_some_iff.mp h
    obtain ⟨xs, hs, h⟩ := Option.bind_eq_some_iff.mp h
    cases h
    exact List.forall_mem_cons.mpr ⟨⟨m.2, hx⟩, ih hs⟩

instance : Restores Bool := ⟨fun _ => rfl⟩

instance : Restores Int64 where
  decode_written n := by
    have hl : Json.leastInt64 ≤ n.toInt := n.le_toInt
    have hg : n.toInt ≤ Json.greatestInt64 := Int.le_of_lt_add_one n.toInt_lt
    have hd : decode (encode n).written =
        if Json.leastInt64 ≤ n.toInt ∧ n.toInt ≤ Json.greatestInt64 then some (Int64.ofInt n.toInt)
        else none := rfl
    rw [hd, if_pos ⟨hl, hg⟩, Int64.ofInt_toInt]

instance [Encode α] [Decode α] [Restores α] : Restores (Assoc α) :=
  ⟨fun _ => restored_assoc fun _ _ => restored _⟩

theorem restored_finite (x : Binary64) : Restored (Binary64.Extended.finite x) := rfl

class NotNull (α : Type) [Decode α] : Prop where
  decode_null : (decode .null : Option α) = none

instance : NotNull String := ⟨rfl⟩

instance : NotNull Bool := ⟨rfl⟩

instance : NotNull Int64 := ⟨rfl⟩

instance : NotNull Binary64.Extended := ⟨rfl⟩

instance [Decode α] : NotNull (List α) := ⟨rfl⟩

instance [Decode α] : NotNull (Assoc α) := ⟨rfl⟩

section Optional

variable [Encode α] [Decode α] (name : String) (get : ρ → Option α) (set : Option α → ρ → ρ)

theorem decode_optional {w : Written} (hw : w ≠ .null) (s : ρ) :
    (Field.optional name get set).decode w s = (decode w).map fun v => set (some v) s := by
  cases w with
  | null => exact absurd rfl hw
  | _ => rfl

theorem carry_optional [NotNull α] (r s : ρ) (h : SomeRestored (get r))
    (hs : set none s = s) :
    (Field.optional name get set).carry r s = some (set (get r) s) := by
  cases hg : get r with
  | none => simp [Field.carry, Field.optional, hg, hs]
  | some v =>
    have hv : decode (encode v).written = some v := h v hg
    have hw : (encode v).written ≠ .null := by
      intro hn
      rw [hn, NotNull.decode_null] at hv
      cases hv
    have hc : (Field.optional name get set).carry r s =
        (Field.optional name get set).decode (encode v).written s := by
      simp [Field.carry, Field.optional, hg]
    rw [hc, decode_optional name get set hw, hv]
    rfl

end Optional

/-- Carried over to `s` one after another, the fields make up `r`. -/
inductive Carries (r : ρ) : List (Field ρ) → ρ → Prop
  | done : Carries r [] r
  | optional {α : Type} [Encode α] [Decode α] [NotNull α] {name : String} {get : ρ → Option α}
    {set : Option α → ρ → ρ} {fs : List (Field ρ)} {s : ρ} (h : SomeRestored (get r))
    (hs : set none s = s) (rest : Carries r fs (set (get r) s)) :
    Carries r (.optional name get set :: fs) s

theorem Carries.foldlM_carry {r s : ρ} {fs : List (Field ρ)} (h : Carries r fs s) :
    fs.foldlM (fun s f => f.carry r s) s = some r := by
  induction h with
  | done => rfl
  | optional h hs rest ih =>
    rw [List.foldlM_cons, carry_optional _ _ _ _ _ h hs]
    exact ih

theorem Carries.restored [Record ρ] {r : ρ} (h : Carries r fields empty)
    (hn : Named (fields (ρ := ρ))) : Restored r :=
  (read?_document hn r).trans h.foldlM_carry

end Record

def Field.Keeps (P : ρ → Prop) (f : Field ρ) : Prop :=
  ∀ w s s', f.decode w s = some s' → P s → P s'

namespace Record

variable {P : ρ → Prop}

theorem keeps_optional [Encode α] [Decode α] {name : String} {get : ρ → Option α}
    {set : Option α → ρ → ρ} (hn : ∀ s, P s → P (set none s))
    (hv : ∀ w v s, decode w = some v → P s → P (set (some v) s)) :
    (Field.optional name get set).Keeps P := by
  intro w s s' hd hp
  by_cases hw : w = .null
  · subst hw
    cases hd
    exact hn s hp
  · rw [decode_optional name get set hw] at hd
    obtain ⟨v, h, rfl⟩ := Option.map_eq_some_iff.mp hd
    exact hv w v s h hp

theorem keeps_own [Encode α] [Decode α] {Q : α → Prop} {name : String} {get : ρ → Option α}
    {set : Option α → ρ → ρ} (hg : ∀ v s, get (set v s) = v)
    (hd : ∀ (w : Written) v, decode w = some v → Q v) :
    (Field.optional name get set).Keeps fun r => ∀ v, get r = some v → Q v := by
  refine keeps_optional (fun s _ v hv => ?_) fun w v s h _ v' hv => ?_
  · rw [hg] at hv
    cases hv
  · rw [hg, Option.some.injEq] at hv
    exact hv ▸ hd w v h

theorem keeps_other [Encode α] [Decode α] {name : String} {get : ρ → Option α}
    {set : Option α → ρ → ρ} (h : ∀ v s, P (set v s) = P s) :
    (Field.optional name get set).Keeps P :=
  keeps_optional (fun s hp => h none s ▸ hp) fun _ v s _ hp => h (some v) s ▸ hp

theorem readMembers_keeps {ms : List (String × Written)} {fs : List (Field ρ)}
    (hf : ∀ f ∈ fs, f.Keeps P) {s r : ρ} (h : readMembers ms fs s = some r) (hp : P s) : P r := by
  induction fs generalizing s with
  | nil =>
    cases h
    exact hp
  | cons f fs ih =>
    obtain ⟨hk, hs⟩ := List.forall_mem_cons.mp hf
    rw [readMembers] at h
    split at h
    · exact ih hs h hp
    · obtain ⟨s', hd, h⟩ := Option.bind_eq_some_iff.mp h
      exact ih hs h (hk _ s s' hd hp)
    · cases h

theorem readItems_keeps {ws : List Written} {fs : List (Field ρ)} (hf : ∀ f ∈ fs, f.Keeps P)
    {s r : ρ} (h : readItems fs ws s = some r) (hp : P s) : P r := by
  induction fs generalizing ws s with
  | nil =>
    cases ws with
    | nil =>
      cases h
      exact hp
    | cons w ws => cases h
  | cons f fs ih =>
    obtain ⟨hk, hs⟩ := List.forall_mem_cons.mp hf
    cases ws with
    | nil =>
      cases h
      exact hp
    | cons w ws =>
      obtain ⟨s', hd, h⟩ := Option.bind_eq_some_iff.mp h
      exact ih hs h (hk w s s' hd hp)

/-- What is true of the empty record and kept by every field is true of all records that are read.
-/
theorem read?_keeps [Record ρ] (he : P empty) (hf : ∀ f ∈ fields (ρ := ρ), f.Keeps P) {w : Written}
    {r : ρ} (h : read? w = some r) : P r := by
  cases w with
  | obj ms => exact readMembers_keeps hf h he
  | arr ws => exact readItems_keeps hf h he
  | _ => cases h

theorem readMembers_filter {p : String → Bool} {fs : List (Field ρ)}
    (hf : ∀ f ∈ fs, p f.name = true) (ms : List (String × Written)) (s : ρ) :
    readMembers (ms.filter fun m => p m.1) fs s = readMembers ms fs s := by
  induction fs generalizing s with
  | nil => rfl
  | cons f fs ih =>
    obtain ⟨hp, hs⟩ := List.forall_mem_cons.mp hf
    have hm : (ms.filter fun m => p m.1).filter (fun m => m.1 == f.name) =
        ms.filter fun m => m.1 == f.name := by
      rw [List.filter_filter]
      refine List.filter_congr fun m _ => ?_
      by_cases he : m.1 = f.name <;> simp [he, hp]
    rw [readMembers, readMembers, hm]
    split
    · exact ih hs s
    · exact congrArg _ (funext (ih hs))
    · rfl

def names (ρ : Type) [Record ρ] : List String := (fields (ρ := ρ)).map Field.name

theorem read?_known [Record ρ] (ms : List (String × Written)) :
    (read? (.obj (ms.filter fun m => m.1 ∈ names ρ)) : Option ρ) = read? (.obj ms) := by
  have hf : ∀ f ∈ fields (ρ := ρ), decide (f.name ∈ names ρ) = true := by
    intro f hf
    exact decide_eq_true (List.mem_map_of_mem hf)
  exact readMembers_filter (p := fun k => decide (k ∈ names ρ)) hf ms empty

/-- The flags of a record set variables that it declares, and no others. -/
theorem flags_declared [Record ρ] (hn : Named (fields (ρ := ρ))) (r : ρ) :
    ∃ flags fs, Variables.encode (encode r) = .ok flags ∧ Variables.cut? flags = some fs ∧
      ∀ f ∈ fs, f.1 ∈ names ρ := by
  refine ⟨_, setFields r fields, Variables.encode_obj _, cut?_setFields hn, ?_⟩
  intro p hp
  obtain ⟨f, hf, hk, -⟩ := (mem_setFields hn).mp hp
  exact hk ▸ List.mem_map_of_mem hf

/-- Whatever document a record was read from, it comes back from a document of its own, members of
other names have no part in it, and its flags set the variables that it declares and no others. -/
structure Settles (ρ : Type) [Record ρ] : Prop where
  comes_back : ∀ (w : Written) (r : ρ), decode w = some r → ofJson? (encode r) = some r
  known : ∀ ms : List (String × Written),
    (decode (.obj ms) : Option ρ) = decode (.obj (ms.filter fun m => m.1 ∈ names ρ))
  declared : ∀ r : ρ, ∃ flags fs, Variables.encode (encode r) = .ok flags ∧
    Variables.cut? flags = some fs ∧ ∀ f ∈ fs, f.1 ∈ names ρ

theorem settles [Record ρ] (hn : Named (fields (ρ := ρ)))
    (h : ∀ (w : Written) (r : ρ), read? w = some r → Restored r) : Settles ρ where
  comes_back := h
  known ms := (read?_known ms).symm
  declared := flags_declared hn

end Record
end Provision
