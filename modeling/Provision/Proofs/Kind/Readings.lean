import Provision.Proofs.Kind
import Provision.Proofs.Outputs

/-!
Output records field by field. Each field is read from the value of one output, and the fields make
up the record, so outputs that give the same readings give the same record.
-/

set_option autoImplicit false

namespace Provision

/-- A field of an output record: the output it is read from, how, and what it is without one. -/
structure Reading (Output : Type) where
  {α : Type}
  name : String
  get : Output → α
  read : Option Json → α
  zero : α
  absent : read none = zero

namespace Reading

variable {Output : Type}

def text (name : String) (get : Output → String) : Reading Output :=
  ⟨name, get, Json.asString, "", rfl⟩

def int (name : String) (get : Output → Int64) : Reading Output :=
  ⟨name, get, fun v => .ofInt (Json.asInt v), 0, rfl⟩

def bool (name : String) (get : Output → Bool) : Reading Output :=
  ⟨name, get, Json.asBool, false, rfl⟩

def labels (name : String) (get : Output → Assoc String) : Reading Output :=
  ⟨name, get, fun v => .ofList (Json.asStringMap v), .empty, rfl⟩

end Reading

def ClusterOutput.readings : List (Reading ClusterOutput) := [
  .text "cluster_id" (·.clusterId),
  .text "cluster_name" (·.clusterName),
  .text "openshift_version" (·.openshiftVersion),
  .text "api_url" (·.apiUrl),
  .text "state" (·.state)]

def MachinePoolOutput.readings : List (Reading MachinePoolOutput) := [
  .text "machine_pool_id" (·.id),
  .text "name" (·.name),
  .text "cluster_id" (·.clusterId),
  .int "replicas" (·.replicas),
  .text "machine_type" (·.machineType),
  .bool "autoscaling_enabled" (·.autoscalingEnabled),
  .labels "labels" (·.labels)]

namespace CloudProvidersOutput

def readItems (v : Option Json) : List CloudProvider := (v.bind Record.ofJson?).getD []

def readItem (v : Option Json) : Option CloudProvider := (v.filter (· != .null)).bind Record.ofJson?

def readings : List (Reading CloudProvidersOutput) := [
  .text "search" (·.search),
  .text "order" (·.order),
  ⟨"items", (·.items), readItems, [], rfl⟩,
  ⟨"item", (·.item), readItem, none, rfl⟩]

end CloudProvidersOutput

def IdpOutput.readings : List (Reading IdpOutput) := [.text "idp_id" (·.id)]

namespace ResourceKind

variable {Args Output : Type}

inductive HasReadings : {Args Output : Type} → ResourceKind Args Output → List (Reading Output) → Prop
  | cluster : HasReadings ResourceKind.cluster ClusterOutput.readings
  | machinePool : HasReadings ResourceKind.machinePool MachinePoolOutput.readings
  | cloudProviders : HasReadings ResourceKind.cloudProviders CloudProvidersOutput.readings
  | identityProvider (t : IdpType) :
    HasReadings (ResourceKind.identityProvider t) IdpOutput.readings

variable {k : ResourceKind Args Output} {rs : List (Reading Output)}

theorem Shipped.exists_readings (hk : k.Shipped) : ∃ rs, k.HasReadings rs := by
  cases hk <;> exact ⟨_, by constructor⟩

namespace HasReadings

theorem get_project (hk : k.HasReadings rs) :
    ∀ r ∈ rs, ∀ o, r.get (k.project o) = r.read (o.value? r.name) := by
  cases hk with
  | cluster =>
    simp only [ClusterOutput.readings, List.forall_mem_cons]
    exact ⟨fun _ => rfl, fun _ => rfl, fun _ => rfl, fun _ => rfl, fun _ => rfl, by simp⟩
  | machinePool =>
    simp only [MachinePoolOutput.readings, List.forall_mem_cons]
    exact ⟨fun _ => rfl, fun _ => rfl, fun _ => rfl, fun _ => rfl, fun _ => rfl, fun _ => rfl,
      fun _ => rfl, by simp⟩
  | cloudProviders =>
    simp only [CloudProvidersOutput.readings, List.forall_mem_cons]
    exact ⟨fun _ => rfl, fun _ => rfl, fun _ => rfl, fun _ => rfl, by simp⟩
  | identityProvider t =>
    simp only [IdpOutput.readings, List.forall_mem_cons]
    exact ⟨fun _ => rfl, by simp⟩

theorem ext (hk : k.HasReadings rs) (a b : Output) (h : ∀ r ∈ rs, r.get a = r.get b) :
    a = b := by
  cases hk with
  | cluster =>
    cases a; cases b
    simpa [ClusterOutput.readings, Reading.text] using h
  | machinePool =>
    cases a; cases b
    simpa [MachinePoolOutput.readings, Reading.text, Reading.int, Reading.bool,
      Reading.labels] using h
  | cloudProviders =>
    cases a; cases b
    simpa [CloudProvidersOutput.readings, Reading.text] using h
  | identityProvider t =>
    cases a; cases b
    simpa [IdpOutput.readings, Reading.text] using h

theorem project_congr (hk : k.HasReadings rs) {o p : Outputs}
    (h : ∀ r ∈ rs, r.read (o.value? r.name) = r.read (p.value? r.name)) :
    k.project o = k.project p := by
  refine hk.ext _ _ fun r hr => ?_
  rw [hk.get_project r hr, hk.get_project r hr, h r hr]

theorem project_eq (hk : k.HasReadings rs) {o : Outputs} {out : Output}
    (h : ∀ r ∈ rs, r.read (o.value? r.name) = r.get out) : k.project o = out := by
  refine hk.ext _ _ fun r hr => ?_
  rw [hk.get_project r hr, h r hr]

end HasReadings

end ResourceKind
end Provision
