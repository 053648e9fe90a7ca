import Provision.Proofs.Kind.Readings
import Provision.Proofs.Record.RoundTrip

set_option autoImplicit false

namespace Provision

open Record (Restores)

theorem CloudProvider.named_fields : Record.Named (Record.fields (ρ := CloudProvider)) where
  nodup := by decide
  no_equals := by decide

instance : Restores CloudProvider where
  decode_written p := by
    refine (Record.read?_document CloudProvider.named_fields p).trans ?_
    simp [Record.fields, Record.carry_plain, Record.empty]

theorem ClusterOutput.read_encode (out : ClusterOutput) :
    ∀ r ∈ readings, r.read ((encode out).member? r.name) = r.get out := by
  simp [readings, encode, Json.member?_ofMembers, List.lookup_cons, Reading.text, Json.asString]

theorem MachinePoolOutput.read_encode (out : MachinePoolOutput) :
    ∀ r ∈ readings, r.read ((encode out).member? r.name) = r.get out := by
  have hint := Record.reads_int.written out.replicas
  have hlabels := Record.reads_labels.written out.labels
  simpa [readings, encode, Json.member?_ofMembers, List.lookup_cons, Reading.text, Reading.int,
    Reading.bool, Reading.labels, Json.asString, Json.asBool] using ⟨hint, hlabels⟩

namespace CloudProvidersOutput

theorem readItems_encode (ps : List CloudProvider) : readItems (some (encode ps)) = ps := by
  simp [readItems, Record.ofJson?_encode]

theorem readItem_encode (p? : Option CloudProvider) :
    readItem (some ((p?.map encode).getD .null)) = p? := by
  cases p? with
  | none => rfl
  | some p =>
    have hf : (some (encode p)).filter (· != .null) = some (encode p) := rfl
    simp [readItem, hf, Record.ofJson?_encode]

theorem read_encode (out : CloudProvidersOutput) :
    ∀ r ∈ readings, r.read ((encode out).member? r.name) = r.get out := by
  have hitems := readItems_encode out.items
  have hitem := readItem_encode out.item
  simpa [readings, encode, Json.member?_ofMembers, List.lookup_cons, Reading.text,
    Json.asString] using ⟨hitems, hitem⟩

theorem ofOutputs_wrap (others : String → List (String × Json)) (values : Json) :
    ofOutputs (Outputs.wrap others values) = ofStateValues values := by
  simp only [ofOutputs, ofStateValues, Outputs.value?_wrap]

end CloudProvidersOutput

namespace ResourceKind

/-- The record comes back from outputs that hold the members of its document. -/
def Undoes {Args Output : Type} [Encode Output] (k : ResourceKind Args Output) : Prop :=
  ∀ (others : String → List (String × Json)) (out : Output),
    k.project (Outputs.wrap others (encode out)) = out

theorem HasReadings.undoes {Args Output : Type} [Encode Output] {k : ResourceKind Args Output}
    {rs : List (Reading Output)} (hk : k.HasReadings rs)
    (h : ∀ out, ∀ r ∈ rs, r.read ((encode out).member? r.name) = r.get out) : k.Undoes := by
  intro others out
  refine hk.project_eq fun r hr => ?_
  rw [Outputs.value?_wrap, h out r hr]

theorem project_undoes_encode : cluster.Undoes ∧ machinePool.Undoes ∧ cloudProviders.Undoes ∧
    ∀ others values, CloudProvidersOutput.ofStateValues values =
      cloudProviders.project (Outputs.wrap others values) := by
  refine ⟨?_, ?_, ?_, fun others values => (CloudProvidersOutput.ofOutputs_wrap others values).symm⟩
  · exact HasReadings.cluster.undoes ClusterOutput.read_encode
  · exact HasReadings.machinePool.undoes MachinePoolOutput.read_encode
  · exact HasReadings.cloudProviders.undoes CloudProvidersOutput.read_encode

end ResourceKind
end Provision
