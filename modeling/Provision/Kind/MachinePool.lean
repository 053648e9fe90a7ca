import Provision.Kind.Basic

set_option autoImplicit false

namespace Provision

structure MachinePoolArgs where
  cluster : Option String := none
  ocmEnvironment : Option String := none
  name : Option String := none
  token : Option String := none
  url : Option String := none
  machineType : Option String := none
  replicas : Option Int64 := none
  autoscalingEnabled : Option Bool := none
  useSpotInstances : Option Bool := none
  maxReplicas : Option Int64 := none
  minReplicas : Option Int64 := none
  maxSpotPrice : Option Binary64.Extended := none
  labels : Option (Assoc String) := none
  taints : Option (List (Assoc String)) := none
  id : Option String := none
  availabilityZone : Option String := none
  subnetId : Option String := none
  multiAz : Option Bool := none
deriving DecidableEq, Inhabited

namespace MachinePoolArgs

instance : Record MachinePoolArgs where
  empty := {}
  fields := [
    .optional "cluster" (·.cluster) fun v r => { r with cluster := v },
    .optional "ocm_environment" (·.ocmEnvironment) fun v r => { r with ocmEnvironment := v },
    .optional "name" (·.name) fun v r => { r with name := v },
    .optional "token" (·.token) fun v r => { r with token := v },
    .optional "url" (·.url) fun v r => { r with url := v },
    .optional "machine_type" (·.machineType) fun v r => { r with machineType := v },
    .optional "replicas" (·.replicas) fun v r => { r with replicas := v },
    .optional "autoscaling_enabled" (·.autoscalingEnabled)
      fun v r => { r with autoscalingEnabled := v },
    .optional "use_spot_instances" (·.useSpotInstances)
      fun v r => { r with useSpotInstances := v },
    .optional "max_replicas" (·.maxReplicas) fun v r => { r with maxReplicas := v },
    .optional "min_replicas" (·.minReplicas) fun v r => { r with minReplicas := v },
    .optional "max_spot_price" (·.maxSpotPrice) fun v r => { r with maxSpotPrice := v },
    .optional "labels" (·.labels) fun v r => { r with labels := v },
    .optional "taints" (·.taints) fun v r => { r with taints := v },
    .optional "id" (·.id) fun v r => { r with id := v },
    .optional "availability_zone" (·.availabilityZone)
      fun v r => { r with availabilityZone := v },
    .optional "subnet_id" (·.subnetId) fun v r => { r with subnetId := v },
    .optional "multi_availability_zone" (·.multiAz) fun v r => { r with multiAz := v }]

/-- A taint in the form that the manifest takes. -/
def taint (key value effect : String) : Assoc String :=
  .ofList [("key", key), ("value", value), ("schedule_type", effect)]

end MachinePoolArgs

structure MachinePoolOutput where
  id : String
  name : String
  clusterId : String
  replicas : Int64
  machineType : String
  autoscalingEnabled : Bool
  labels : Assoc String
deriving DecidableEq

namespace MachinePoolOutput

instance : Encode MachinePoolOutput where
  encode o := .ofMembers [
    ("machine_pool_id", .str o.id),
    ("name", .str o.name),
    ("cluster_id", .str o.clusterId),
    ("replicas", encode o.replicas),
    ("machine_type", .str o.machineType),
    ("autoscaling_enabled", .bool o.autoscalingEnabled),
    ("labels", encode o.labels)]

def ofOutputs (o : Outputs) : MachinePoolOutput where
  id := o.text "machine_pool_id"
  name := o.text "name"
  clusterId := o.text "cluster_id"
  replicas := o.int "replicas"
  machineType := o.text "machine_type"
  autoscalingEnabled := o.bool "autoscaling_enabled"
  labels := o.labels "labels"

end MachinePoolOutput

def ResourceKind.machinePool : ResourceKind MachinePoolArgs MachinePoolOutput :=
  .ofRecord "machine-pool" ⟨"machine-pools"⟩ (fun u a => { a with url := some u }) .ofOutputs

end Provision
