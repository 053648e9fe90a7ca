import Provision.Kind.Basic

set_option autoImplicit false

namespace Provision

structure CloudProvidersArgs where
  url : Option String := none
  token : Option String := none
  search : Option String := none
  order : Option String := none
deriving DecidableEq, Inhabited

namespace CloudProvidersArgs

instance : Record CloudProvidersArgs where
  empty := {}
  fields := [
    .optional "url" (·.url) fun v r => { r with url := v },
    .optional "token" (·.token) fun v r => { r with token := v },
    .optional "search" (·.search) fun v r => { r with search := v },
    .optional "order" (·.order) fun v r => { r with order := v }]

def filtered (search order : String) : CloudProvidersArgs :=
  { search := some search, order := some order }

end CloudProvidersArgs

structure CloudProvider where
  id : String := ""
  name : String := ""
  displayName : String := ""
deriving DecidableEq, Inhabited

namespace CloudProvider

instance : Record CloudProvider where
  empty := {}
  fields := [
    .plain "id" (·.id) fun v r => { r with id := v },
    .plain "name" (·.name) fun v r => { r with name := v },
    .plain "display_name" (·.displayName) fun v r => { r with displayName := v }]

def named (id displayName : String) : CloudProvider := ⟨id, id, displayName⟩

end CloudProvider

structure CloudProvidersOutput where
  search : String
  order : String
  items : List CloudProvider
  item : Option CloudProvider
deriving DecidableEq

namespace CloudProvidersOutput

instance : Encode CloudProvidersOutput where
  encode o := .ofMembers [
    ("search", .str o.search),
    ("order", .str o.order),
    ("items", encode o.items),
    ("item", (o.item.map encode).getD .null)]

/-- A list with a bad entry reads as empty, and a bad item as none. -/
def ofAttributes (search order items item : Option Json) : CloudProvidersOutput where
  search := Json.asString search
  order := Json.asString order
  items := (items.bind Record.ofJson?).getD []
  item := (item.filter (· != .null)).bind Record.ofJson?

def ofStateValues (values : Json) : CloudProvidersOutput :=
  ofAttributes (values.member? "search") (values.member? "order") (values.member? "items")
    (values.member? "item")

def ofOutputs (o : Outputs) : CloudProvidersOutput :=
  ofAttributes (o.value? "search") (o.value? "order") (o.value? "items") (o.value? "item")

def ids (o : CloudProvidersOutput) : List String := o.items.map (·.id)

end CloudProvidersOutput

def ResourceKind.cloudProviders : ResourceKind CloudProvidersArgs CloudProvidersOutput :=
  .ofRecord "cloud-providers" ⟨"cloud-providers"⟩ (fun u a => { a with url := some u }) .ofOutputs

end Provision
