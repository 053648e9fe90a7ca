import Provision.Kind.CloudProviders
import Provision.Kind.Cluster
import Provision.Kind.IdentityProvider
import Provision.Kind.MachinePool
import Provision.Variables

set_option autoImplicit false

namespace Provision.ResourceKind

variable {Args Output : Type} {k : ResourceKind Args Output}

def Encodable (k : ResourceKind Args Output) (args : Args) : Prop :=
  ∃ ms, k.serialise args = .ok (.obj ms)

def HasFlags (k : ResourceKind Args Output) (args : Args) (vars : List String) : Prop :=
  ∃ record, k.serialise args = .ok record ∧ Variables.encode record = .ok vars

inductive Shipped : {Args Output : Type} → ResourceKind Args Output → Prop
  | cluster : Shipped ResourceKind.cluster
  | machinePool : Shipped ResourceKind.machinePool
  | cloudProviders : Shipped ResourceKind.cloudProviders
  | identityProvider (t : IdpType) : Shipped (ResourceKind.identityProvider t)

theorem Shipped.encodable (hk : Shipped k) (args : Args) : k.Encodable args := by
  cases hk <;> exact ⟨_, rfl⟩

theorem Shipped.stamp_stamp (hk : Shipped k) (url : String) (args : Args) :
    k.stamp url (k.stamp url args) = k.stamp url args := by
  cases hk <;> rfl

end Provision.ResourceKind
