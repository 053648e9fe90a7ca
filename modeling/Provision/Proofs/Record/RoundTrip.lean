import Provision.Proofs.Record.Echo

set_option autoImplicit false

namespace Provision

namespace Json

theorem writtenMembers_eq_map (ms : List (String × Json)) :
    writtenMembers ms = ms.map fun m => (m.1, m.2.written) := by
  induction ms with
  | nil => rfl
  | cons m ms ih => simp [writtenMembers, ih]

end Json

def Field.carry {ρ : Type} (f : Field ρ) (r s : ρ) : Option ρ :=
  match f.encode r with
  | none => some s
  | some v => f.decode v.written s

namespace Record

/-- Values that come back from their documents. -/
class Restores (α : Type) [Encode α] [Decode α] : Prop where
  decode_written : ∀ v : α, decode (encode v).written = some v

open Restores (decode_written)

instance : Restores String := ⟨fun _ => rfl⟩

variable {α : Type} [Encode α] [Decode α] [Restores α]

theorem ofJson?_encode (v : α) : ofJson? (encode v) = some v := decode_written v

theorem decodeItems_written (xs : List α) :
    decodeItems (Json.writtenItems (encodeItems xs)) = some xs := by
  induction xs with
  | nil => rfl
  | cons x xs ih =>
    simp [encodeItems, Json.writtenItems, decodeItems, decode_written, ih]

instance : Restores (List α) := ⟨decodeItems_written⟩

variable {ρ : Type}

theorem carry_plain (name : String) (get : ρ → α) (set : α → ρ → ρ) (r s : ρ) :
    (Field.plain name get set).carry r s = some (set (get r) s) := by
  simp [Field.carry, Field.plain, decode_written]

theorem filter_written {ms : List (String × Json)} (hn : (ms.map Prod.fst).Nodup) (name : String) :
    (Json.writtenMembers ms).filter (fun m => m.1 == name) =
      ((ms.lookup name).map fun v => (name, v.written)).toList := by
  rw [Json.writtenMembers_eq_map]
  induction ms with
  | nil => rfl
  | cons m ms ih =>
    obtain ⟨k, v⟩ := m
    obtain ⟨hk, hn⟩ := List.nodup_cons.mp hn
    rw [List.map_cons, List.filter_cons, ih hn, lookup_cons_eq]
    by_cases he : name = k
    · have hne : ∀ m ∈ ms, m.1 ≠ k := by
        intro m hm h
        exact hk (List.mem_map.mpr ⟨m, hm, h⟩)
      have hno : ms.lookup k = none :=
        List.lookup_eq_none_iff.mpr fun m hm => by simpa using (hne m hm).symm
      simp [he, hno]
    · simp [he, Ne.symm he]

theorem readMembers_written {r : ρ} {ms : List (String × Json)} (hn : (ms.map Prod.fst).Nodup)
    {fs : List (Field ρ)} (h : ∀ f ∈ fs, ms.lookup f.name = f.encode r) (s : ρ) :
    readMembers (Json.writtenMembers ms) fs s = fs.foldlM (fun s f => f.carry r s) s := by
  induction fs generalizing s with
  | nil => rfl
  | cons f fs ih =>
    obtain ⟨hf, hs⟩ := List.forall_mem_cons.mp h
    rw [readMembers, filter_written hn, hf, List.foldlM_cons, Field.carry]
    cases f.encode r with
    | none => exact ih hs s
    | some v =>
      simp only [Option.map_some, Option.toList_some]
      exact congrArg (f.decode v.written s).bind (funext (ih hs))

theorem read?_document [Record ρ] (hn : Named (fields (ρ := ρ))) (r : ρ) :
    read? (document r).written = fields.foldlM (fun s f => f.carry r s) empty := by
  refine readMembers_written (ordered_sortMembers _).nodup_names (fun f hf => ?_) empty
  exact member?_document hn hf r

end Record
end Provision
