import Provision.Kind.CloudProviders
import Provision.Kind.Cluster
import Provision.Proofs.Record.Flags

/-!
What the flags of the argument records say: everything but which of the fields that stand for unset
ones were left out. Numbers that are not finite are written as null and so count as unset.
-/

set_option autoImplicit false

namespace Provision

open Record (present text?_optional_eq_iff)

namespace ClusterArgs

def trimmed (a : ClusterArgs) : ClusterArgs where
  token := present a.token
  url := present a.url
  ocmEnvironment := present a.ocmEnvironment
  clusterName := present a.clusterName
  openshiftVersion := present a.openshiftVersion
  channelGroup := present a.channelGroup
  awsRegion := present a.awsRegion
  availabilityZones := present a.availabilityZones
  subnetIds := present a.subnetIds
  replicas := present a.replicas
  computeMachineType := present a.computeMachineType
  multiAz := present a.multiAz
  privateLink := present a.privateLink
  sts := present a.sts
  tags := present a.tags

theorem named : Record.Named (Record.fields (ρ := ClusterArgs)) where
  nodup := by decide
  no_equals := by decide

theorem encode_eq_iff (a b : ClusterArgs) :
    Variables.encode (encode a) = Variables.encode (encode b) ↔ a.trimmed = b.trimmed := by
  refine (Record.encode_document_eq_iff named a b).trans ?_
  simp only [Record.fields, List.forall_mem_cons, text?_optional_eq_iff, trimmed, mk.injEq,
    List.not_mem_nil, false_imp_iff, implies_true, and_true]

end ClusterArgs

namespace MachinePoolArgs

def trimmed (a : MachinePoolArgs) : MachinePoolArgs where
  cluster := present a.cluster
  ocmEnvironment := present a.ocmEnvironment
  name := present a.name
  token := present a.token
  url := present a.url
  machineType := present a.machineType
  replicas := present a.replicas
  autoscalingEnabled := present a.autoscalingEnabled
  useSpotInstances := present a.useSpotInstances
  maxReplicas := present a.maxReplicas
  minReplicas := present a.minReplicas
  maxSpotPrice := present a.maxSpotPrice
  labels := present a.labels
  taints := present a.taints
  id := present a.id
  availabilityZone := present a.availabilityZone
  subnetId := present a.subnetId
  multiAz := present a.multiAz

theorem named : Record.Named (Record.fields (ρ := MachinePoolArgs)) where
  nodup := by decide
  no_equals := by decide

theorem encode_eq_iff (a b : MachinePoolArgs) :
    Variables.encode (encode a) = Variables.encode (encode b) ↔ a.trimmed = b.trimmed := by
  refine (Record.encode_document_eq_iff named a b).trans ?_
  simp only [Record.fields, List.forall_mem_cons, text?_optional_eq_iff, trimmed, mk.injEq,
    List.not_mem_nil, false_imp_iff, implies_true, and_true]

end MachinePoolArgs

namespace CloudProvidersArgs

def trimmed (a : CloudProvidersArgs) : CloudProvidersArgs where
  url := present a.url
  token := present a.token
  search := present a.search
  order := present a.order

theorem named : Record.Named (Record.fields (ρ := CloudProvidersArgs)) where
  nodup := by decide
  no_equals := by decide

theorem encode_eq_iff (a b : CloudProvidersArgs) :
    Variables.encode (encode a) = Variables.encode (encode b) ↔ a.trimmed = b.trimmed := by
  refine (Record.encode_document_eq_iff named a b).trans ?_
  simp only [Record.fields, List.forall_mem_cons, text?_optional_eq_iff, trimmed, mk.injEq,
    List.not_mem_nil, false_imp_iff, implies_true, and_true]

end CloudProvidersArgs

namespace IdpArgs

def trimmed (a : IdpArgs) : IdpArgs where
  token := present a.token
  gatewayUrl := present a.gatewayUrl
  clusterId := present a.clusterId
  name := present a.name
  htpasswdUsers := present a.htpasswdUsers
  ca := present a.ca
  url := present a.url
  attributes := present a.attributes
  insecure := present a.insecure
  clientId := present a.clientId
  clientSecret := present a.clientSecret
  organizations := present a.organizations
  hostedDomain := present a.hostedDomain
  issuer := present a.issuer

theorem named : Record.Named (Record.fields (ρ := IdpArgs)) where
  nodup := by decide
  no_equals := by decide

theorem encode_eq_iff (a b : IdpArgs) :
    Variables.encode (encode a) = Variables.encode (encode b) ↔ a.trimmed = b.trimmed := by
  refine (Record.encode_document_eq_iff named a b).trans ?_
  simp only [Record.fields, List.forall_mem_cons, text?_optional_eq_iff, trimmed, mk.injEq,
    List.not_mem_nil, false_imp_iff, implies_true, and_true]

end IdpArgs

/-- The flags of a record lose nothing but which fields were written out although they stand for
unset ones. -/
theorem flags_eq_iff_trimmed_eq :
    (∀ a b : ClusterArgs,
      Variables.encode (encode a) = Variables.encode (encode b) ↔ a.trimmed = b.trimmed) ∧
    (∀ a b : MachinePoolArgs,
      Variables.encode (encode a) = Variables.encode (encode b) ↔ a.trimmed = b.trimmed) ∧
    (∀ a b : CloudProvidersArgs,
      Variables.encode (encode a) = Variables.encode (encode b) ↔ a.trimmed = b.trimmed) ∧
    ∀ a b : IdpArgs,
      Variables.encode (encode a) = Variables.encode (encode b) ↔ a.trimmed = b.trimmed :=
  ⟨ClusterArgs.encode_eq_iff, MachinePoolArgs.encode_eq_iff, CloudProvidersArgs.encode_eq_iff,
    IdpArgs.encode_eq_iff⟩

example : ({ token := some "", replicas := some 0, sts := some false, tags := some .empty } :
    ClusterArgs).trimmed = {} := by decide

end Provision
