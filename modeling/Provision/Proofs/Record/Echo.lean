import Provision.Kind.Basic
import Provision.Proofs.Record.Flags
import Provision.Terraform.Runner

/-!
Outputs that give the variables of an apply back. A field that was left out of the flags stands for
the zero of its type, and so does an output that is missing; the readers cannot tell the two apart.
-/

set_option autoImplicit false

namespace Provision

open Variables (pair)

namespace Variables

def received : List String → List String
  | flag :: f :: rest =>
    if flag = "-var" then
      match Text.splitOnce? '=' f.toList with
      | some (k, _) => String.ofList k :: received rest
      | none => received rest
    else received (f :: rest)
  | _ => []

theorem received_cons {flag : String} (h : flag ≠ "-var") (args : List String) :
    received (flag :: args) = received args := by
  cases args with
  | nil => rfl
  | cons f rest => simp [received, h]

theorem received_pairs {fs : List (String × String)} (h : ∀ f ∈ fs, '=' ∉ f.1.toList)
    (rest : List String) :
    received (fs.flatMap pair ++ rest) = fs.map Prod.fst ++ received rest := by
  induction fs with
  | nil => rfl
  | cons f fs ih =>
    obtain ⟨hf, hs⟩ := List.forall_mem_cons.mp h
    have hc := Text.splitOnce?_append hf f.2.toList
    simp [pair, received, hc, ih hs]

theorem received_mutatingArgs (vars : List String) :
    received (Terraform.mutatingArgs vars) = received vars := by
  simp only [Terraform.mutatingArgs, List.cons_append, List.nil_append]
  rw [received_cons (by decide), received_cons (by decide), received_cons (by decide)]

end Variables

/-- Each variable in the flags is an output with the record's value, and there is no other one. -/
structure Outputs.Echoes (o : Outputs) (record : Json) (flags : List String) : Prop where
  given : ∀ n ∈ Variables.received flags, o.value? n = record.member? n
  others : ∀ n ∉ Variables.received flags, o.value? n = none

namespace Record

/-- A reader gives a value back from its document, and otherwise the zero, which is also what a
value that stands for an unset field is. -/
structure Reads {α : Type} [Encode α] (read : Option Json → α) (zero : α) : Prop where
  absent : read none = zero
  written : ∀ v, read (some (encode v)) = v
  unset : ∀ v : α, (encode v).isZero = true → v = zero

theorem reads_text : Reads Json.asString "" where
  absent := rfl
  written _ := rfl
  unset v hz := by simpa [encode, Json.isZero] using hz

theorem reads_bool : Reads Json.asBool false where
  absent := rfl
  written _ := rfl
  unset v hz := by simpa [encode, Json.isZero] using hz

theorem reads_int : Reads (fun v => Int64.ofInt (Json.asInt v)) 0 where
  absent := rfl
  written v := by
    have hl := v.le_toInt
    have hg := v.toInt_lt
    have hc : Json.clamp64 v.toInt = v.toInt := by
      simp only [Json.clamp64, Json.leastInt64, Json.greatestInt64]
      omega
    have hr : (Json.Number.int v.toInt).InRange := by
      simp only [Json.Number.InRange, Json.leastInt64, UInt64.size]
      omega
    simp [encode, Json.ofInt, Json.asInt, Json.Number.toInt64_eq hr, Json.Number.truncate, hc]
  unset v hz := by
    have ht : v.toInt = 0 := by simpa [encode, Json.ofInt, Json.isZero, Json.Number.isZero] using hz
    exact Int64.toInt_inj.mp ht

theorem asStringMap_encodeEntries (ms : List (String × String)) :
    Json.asStringMap (some (.obj (encodeEntries ms))) = ms := by
  induction ms with
  | nil => rfl
  | cons m ms ih => exact congrArg (m :: ·) ih

theorem reads_labels : Reads (fun v => Assoc.ofList (Json.asStringMap v)) .empty where
  absent := rfl
  written m := by
    rw [show encode m = .obj (encodeEntries m.entries) from rfl, asStringMap_encodeEntries]
    exact m.ofList_entries
  unset m hz := by
    refine Assoc.ext_entries ?_
    cases he : m.entries with
    | nil => rfl
    | cons e es => simp [encode, he, encodeEntries, Json.isZero] at hz

variable {ρ : Type} [Record ρ]

theorem member?_document (hn : Named (fields (ρ := ρ))) {f : Field ρ} (hf : f ∈ fields) (r : ρ) :
    (document r).member? f.name = f.encode r := by
  have hm : ((membersOf r fields).map Prod.fst).Nodup :=
    (membersOf_names_sublist r fields).nodup hn.nodup
  refine Option.ext fun v => ?_
  simp only [document, Json.ofMembers, Json.member?, (ordered_sortMembers _).lookup_eq_some_iff,
    (sortMembers_perm hm).mem_iff, mem_membersOf]
  constructor
  · rintro ⟨g, hg, hk, hv⟩
    rwa [List.inj_on_of_nodup_map hn.nodup hg hf hk] at hv
  · exact fun hv => ⟨f, hf, rfl, hv⟩

theorem member?_document_eq_none (hn : Named (fields (ρ := ρ))) {n : String}
    (h : n ∉ (fields (ρ := ρ)).map Field.name) (r : ρ) : (document r).member? n = none := by
  have hm : ((membersOf r fields).map Prod.fst).Nodup :=
    (membersOf_names_sublist r fields).nodup hn.nodup
  refine Option.eq_none_iff_forall_ne_some.mpr fun v hv => h ?_
  rw [document, Json.ofMembers, Json.member?, (ordered_sortMembers _).lookup_eq_some_iff,
    (sortMembers_perm hm).mem_iff, mem_membersOf] at hv
  obtain ⟨f, hf, hk, -⟩ := hv
  exact List.mem_map.mpr ⟨f, hf, hk⟩

section Echo

variable {o : Outputs} {r : ρ}

theorem value?_eq_none_of_echoes (hn : Named (fields (ρ := ρ))) {flags : List String}
    (he : o.Echoes (document r) flags) {n : String} (h : n ∉ (fields (ρ := ρ)).map Field.name) :
    o.value? n = none := by
  by_cases hm : n ∈ Variables.received flags
  · rw [he.given _ hm, member?_document_eq_none hn h]
  · exact he.others _ hm

variable (hn : Named (fields (ρ := ρ))) {vars extra : List String}
  (hv : Variables.encode (document r) = .ok vars)
  (he : o.Echoes (document r) (Terraform.mutatingArgs (vars ++ extra)))
include hn hv he

/-- An output that goes by the name of a field is the field's value; only a field without a text may
be missing. -/
theorem value?_of_echoes {f : Field ρ} (hf : f ∈ fields) :
    o.value? f.name = f.encode r ∨ o.value? f.name = none ∧ f.text? r = none := by
  by_cases hm : f.name ∈ Variables.received (Terraform.mutatingArgs (vars ++ extra))
  · rw [he.given _ hm, member?_document hn hf]
    exact .inl rfl
  · refine .inr ⟨he.others _ hm, ?_⟩
    refine Option.eq_none_iff_forall_ne_some.mpr fun t ht => hm ?_
    have hs : (f.name, t) ∈ setFields r fields := (text?_eq_some_iff hn hf).mp ht
    have hx : (setFields r fields).flatMap pair = vars :=
      Except.ok.inj ((Variables.encode_obj _).symm.trans hv)
    rw [Variables.received_mutatingArgs, ← hx, Variables.received_pairs (no_equals_of_mem_setFields hn)]
    exact List.mem_append_left _ (List.mem_map_of_mem hs)

theorem read_of_echoes {α : Type} [Encode α] {read : Option Json → α} {zero : α}
    (hr : Reads read zero) {n : String} {v? : Option α}
    (hf : ∃ f ∈ fields, f.name = n ∧ f.encode r = v?.map encode) :
    read (o.value? n) = v?.getD zero := by
  obtain ⟨f, hf, rfl, hw⟩ := hf
  have ho := value?_of_echoes hn hv he hf
  rw [Field.text?, hw] at ho
  cases v? with
  | none =>
    have ho : o.value? f.name = none := ho.elim id And.left
    rw [ho]
    exact hr.absent
  | some v =>
    rcases ho with ho | ⟨ho, ht⟩
    · rw [ho]
      exact hr.written v
    · have hz : (encode v).isZero = true := by
        by_contra hz
        obtain ⟨t, htext⟩ := Variables.textOf?_of_not_isZero hz
        simp [hz, htext] at ht
      rw [ho, hr.absent, hr.unset v hz]
      rfl

end Echo

end Record
end Provision
