import Provision.Proofs.Kind
import Provision.Proofs.Lifecycle.Step
import Provision.Proofs.Text.ByteOrder

set_option autoImplicit false

namespace Provision.Service

variable {Args Output : Type} {s : Service Args Output} {args : Args} {extra : List String}

theorem varsOf_eq_ok_iff {fs : List String} :
    s.varsOf args extra = .ok fs ↔ ∃ vars, s.kind.HasFlags args vars ∧ fs = vars ++ extra := by
  unfold varsOf ResourceKind.HasFlags
  cases hj : s.kind.serialise args with
  | error reason => simp
  | ok record =>
    cases hv : Variables.encode record with
    | error e => simp [Variables.combine, hv, Except.map]
    | ok vars => simp [Variables.combine, hv, Except.map, eq_comm]

theorem exists_hasFlags_iff {k : ResourceKind Args Output} :
    (∃ vars, k.HasFlags args vars) ↔ k.Encodable args := by
  constructor
  · rintro ⟨vars, record, hj, hv⟩
    cases record with
    | obj ms => exact ⟨ms, hj⟩
    | _ => simp [Variables.encode] at hv
  · rintro ⟨ms, hj⟩
    exact ⟨_, _, hj, Variables.encode_obj ms⟩

theorem varsOf_error_iff :
    (∃ e, s.varsOf args extra = .error e) ↔ ¬ s.kind.Encodable args := by
  rw [← exists_hasFlags_iff]
  constructor
  · rintro ⟨e, he⟩ ⟨vars, hf⟩
    rw [varsOf_eq_ok_iff.mpr ⟨vars, hf, rfl⟩] at he
    cases he
  · intro hn
    cases hv : s.varsOf args extra with
    | error e => exact ⟨e, rfl⟩
    | ok fs =>
      obtain ⟨vars, hf, -⟩ := varsOf_eq_ok_iff.mp hv
      exact absurd ⟨vars, hf⟩ hn

theorem varsOf_ne_null {record : Json} (h : s.kind.serialise args = .ok record) :
    s.varsOf args extra ≠ .error (.encode "null has no variable form") := by
  intro he
  simp only [varsOf, h] at he
  have ht := Variables.combine_error he
  rw [Failure.encode.injEq] at ht
  cases record <;> exact absurd ht (by simp only [Json.kindText]; decide)

/-- The flags of arguments that are written as an object: the fields that are set, each once, in the
order of their names' bytes, each as a pair; whatever the texts hold, cutting the pairs at their
first `=` gives the names and texts back. Texts stand as they are, truth values and numbers in words
and decimals, containers as compact JSON. Other arguments have no flags. -/
theorem flags_of_record (s : Service Args Output) (args : Args) (extra : List String) :
    (∀ ms, s.kind.serialise args = .ok (.obj ms) → (ms.map Prod.fst).Nodup →
      ∃ fields : List (String × String),
        let flags := fields.flatMap fun f => ["-var", f.1 ++ "=" ++ f.2]
        s.varsOf args [] = .ok flags ∧
        s.varsOf args extra = .ok (flags ++ extra) ∧
        (fields.map fun f => f.1.toUTF8.data.toList).Pairwise (· < ·) ∧
        (∀ k, k ∈ fields.map Prod.fst ↔ ∃ v, (k, v) ∈ ms ∧ v.isZero = false) ∧
        (∀ k t, (k, t) ∈ fields ↔
          ∃ v, (k, v) ∈ ms ∧ v.isZero = false ∧ Variables.textOf? v = some t) ∧
        ((∀ m ∈ ms, '=' ∉ m.1.toList) → Variables.cut? flags = some fields)) ∧
    ((∃ e, s.varsOf args extra = .error e) ↔ (∃ reason, s.kind.serialise args = .error reason) ∨
      ∃ record, s.kind.serialise args = .ok record ∧ ∀ ms, record ≠ .obj ms) ∧
    (∀ record, s.kind.serialise args = .ok record →
      s.varsOf args extra ≠ .error (.encode "null has no variable form")) ∧
    ∀ v t, Variables.textOf? v = some t ↔
      v = .str t ∨ v = .bool true ∧ t = "true" ∨ v = .bool false ∧ t = "false" ∨
        (∃ n : Int, v = .num (.int n) ∧ t = toString n) ∨
        (∃ x, v = .num (.float x) ∧ t = String.ofList (Json.floatText x)) ∨
        ((∃ xs, v = .arr xs) ∨ ∃ ms, v = .obj ms) ∧ t = v.compact := by
  refine ⟨?_, ?_, fun record h => varsOf_ne_null h, fun v t => Variables.textOf?_eq_some_iff⟩
  · intro ms hj hn
    have hf : s.kind.HasFlags args ((Variables.fieldsOf ms).flatMap Variables.pair) :=
      ⟨_, hj, Variables.encode_obj ms⟩
    have hm (k t : String) := Variables.mem_fieldsOf hn (k := k) (t := t)
    refine ⟨Variables.fieldsOf ms, varsOf_eq_ok_iff.mpr ⟨_, hf, (List.append_nil _).symm⟩,
      varsOf_eq_ok_iff.mpr ⟨_, hf, rfl⟩, ?_, ?_, hm, ?_⟩
    · refine List.pairwise_map.mpr ((Variables.ordered_fieldsOf ms).imp ?_)
      intro f g hlt
      rw [Text.toUTF8_eq_bytes, Text.toUTF8_eq_bytes]
      exact Text.bytes_lt hlt
    · intro k
      constructor
      · intro hk
        obtain ⟨⟨_, t⟩, hf, rfl⟩ := List.mem_map.mp hk
        obtain ⟨v, hv, hz, -⟩ := (hm _ t).mp hf
        exact ⟨v, hv, hz⟩
      · rintro ⟨v, hv, hz⟩
        obtain ⟨t, ht⟩ := Variables.textOf?_of_not_isZero (v := v) (by simp [hz])
        exact List.mem_map.mpr ⟨(k, t), (hm k t).mpr ⟨v, hv, hz, ht⟩, rfl⟩
    · intro he
      refine Variables.cut?_pairs fun f hf => ?_
      obtain ⟨v, hv, -, -⟩ := (hm f.1 f.2).mp hf
      exact he _ hv
  · rw [varsOf_error_iff]
    constructor
    · intro hn
      cases hj : s.kind.serialise args with
      | error reason => exact .inl ⟨reason, rfl⟩
      | ok record => exact .inr ⟨record, rfl, fun ms hr => hn ⟨ms, by rw [hj, hr]⟩⟩
    · rintro (⟨reason, hj⟩ | ⟨record, hj, hr⟩) ⟨ms, hms⟩
      · rw [hj] at hms
        cases hms
      · rw [hj] at hms
        exact hr ms (Except.ok.inj hms)

end Provision.Service
