import Provision.Kind.Basic

set_option autoImplicit false

namespace Provision

structure ClusterArgs where
  token : Option String := none
  url : Option String := none
  ocmEnvironment : Option String := none
  clusterName : Option String := none
  openshiftVersion : Option String := none
  channelGroup : Option String := none
  awsRegion : Option String := none
  availabilityZones : Option (List String) := none
  subnetIds : Option (List String) := none
  replicas : Option Int64 := none
  computeMachineType : Option String := none
  multiAz : Option Bool := none
  privateLink : Option Bool := none
  sts : Option Bool := none
  tags : Option (Assoc String) := none
deriving DecidableEq, Inhabited

namespace ClusterArgs

instance : Record ClusterArgs where
  empty := {}
  fields := [
    .optional "token" (·.token) fun v r => { r with token := v },
    .optional "url" (·.url) fun v r => { r with url := v },
    .optional "ocm_environment" (·.ocmEnvironment) fun v r => { r with ocmEnvironment := v },
    .optional "cluster_name" (·.clusterName) fun v r => { r with clusterName := v },
    .optional "openshift_version" (·.openshiftVersion) fun v r => { r with openshiftVersion := v },
    .optional "channel_group" (·.channelGroup) fun v r => { r with channelGroup := v },
    .optional "aws_region" (·.awsRegion) fun v r => { r with awsRegion := v },
    .optional "aws_availability_zones" (·.availabilityZones)
      fun v r => { r with availabilityZones := v },
    .optional "aws_subnet_ids" (·.subnetIds) fun v r => { r with subnetIds := v },
    .optional "replicas" (·.replicas) fun v r => { r with replicas := v },
    .optional "compute_machine_type" (·.computeMachineType)
      fun v r => { r with computeMachineType := v },
    .optional "multi_az" (·.multiAz) fun v r => { r with multiAz := v },
    .optional "private_link" (·.privateLink) fun v r => { r with privateLink := v },
    .optional "sts" (·.sts) fun v r => { r with sts := v },
    .optional "tags" (·.tags) fun v r => { r with tags := v }]

end ClusterArgs

structure ClusterOutput where
  clusterId : String
  clusterName : String
  openshiftVersion : String
  apiUrl : String
  state : String
deriving DecidableEq

namespace ClusterOutput

instance : Encode ClusterOutput where
  encode o := .ofMembers [
    ("cluster_id", .str o.clusterId),
    ("cluster_name", .str o.clusterName),
    ("openshift_version", .str o.openshiftVersion),
    ("api_url", .str o.apiUrl),
    ("state", .str o.state)]

def ofOutputs (o : Outputs) : ClusterOutput where
  clusterId := o.text "cluster_id"
  clusterName := o.text "cluster_name"
  openshiftVersion := o.text "openshift_version"
  apiUrl := o.text "api_url"
  state := o.text "state"

end ClusterOutput

def ResourceKind.cluster : ResourceKind ClusterArgs ClusterOutput :=
  .ofRecord "cluster" ⟨"rosa-classic"⟩ (fun u a => { a with url := some u }) .ofOutputs

end Provision
