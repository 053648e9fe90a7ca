import Provision.Kind.CloudProviders

set_option autoImplicit false

namespace Provision.Management

instance : Decode UInt32 where
  decode
    | .num (.int n) => if 0 ≤ n ∧ n < UInt32.size then some (.ofNat n.toNat) else none
    | _ => none

instance : Encode UInt32 := ⟨fun n => .ofInt n.toNat⟩

structure ClusterApi where
  url : String := ""
deriving DecidableEq, Inhabited

instance : Record ClusterApi where
  empty := {}
  fields := [.plain "url" (·.url) fun v r => { r with url := v }]

structure Cluster where
  id : String := ""
  name : String := ""
  state : String := ""
  api : ClusterApi := {}
deriving DecidableEq, Inhabited

instance : Record Cluster where
  empty := {}
  fields := [
    .plain "id" (·.id) fun v r => { r with id := v },
    .plain "name" (·.name) fun v r => { r with name := v },
    .plain "state" (·.state) fun v r => { r with state := v },
    .plain "api" (·.api) fun v r => { r with api := v }]

structure IdentityProvider where
  id : String := ""
  name : String := ""
  type : String := ""
deriving DecidableEq, Inhabited

instance : Record IdentityProvider where
  empty := {}
  fields := [
    .plain "id" (·.id) fun v r => { r with id := v },
    .plain "name" (·.name) fun v r => { r with name := v },
    .plain "type" (·.type) fun v r => { r with type := v }]

structure PasswordUser where
  id : String := ""
  username : String := ""
deriving DecidableEq, Inhabited

instance : Record PasswordUser where
  empty := {}
  fields := [
    .plain "id" (·.id) fun v r => { r with id := v },
    .plain "username" (·.username) fun v r => { r with username := v }]

structure Page (α : Type) where
  page : UInt32 := 0
  size : UInt32 := 0
  total : UInt32 := 0
  items : List α := []
deriving DecidableEq, Inhabited

instance {α : Type} [Encode α] [Decode α] : Record (Page α) where
  empty := {}
  fields := [
    .plain "page" (·.page) fun v r => { r with page := v },
    .plain "size" (·.size) fun v r => { r with size := v },
    .plain "total" (·.total) fun v r => { r with total := v },
    .plain "items" (·.items) fun v r => { r with items := v }]

end Provision.Management
