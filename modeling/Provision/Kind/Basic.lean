import Provision.Outputs
import Provision.Record.Field
import Provision.Settings

set_option autoImplicit false

namespace Provision

/-- A kind of resource with its argument record and its output record. -/
structure ResourceKind (Args Output : Type) where
  name : String
  defaultDir : Settings → Path
  stamp : String → Args → Args
  serialise : Args → Except String Json
  project : Outputs → Output

namespace ResourceKind

/-- A kind whose argument record is always a document, below the root of all manifests. -/
def ofRecord {Args Output : Type} [Encode Args] (name : String) (directory : Path)
    (stamp : String → Args → Args) (project : Outputs → Output) : ResourceKind Args Output where
  name := name
  defaultDir := fun s => s.manifestDir directory
  stamp := stamp
  serialise := fun a => .ok (Encode.encode a)
  project := project

end ResourceKind

namespace Outputs

def text (o : Outputs) (name : String) : String := Json.asString (o.value? name)

def int (o : Outputs) (name : String) : Int64 := .ofInt (Json.asInt (o.value? name))

def bool (o : Outputs) (name : String) : Bool := Json.asBool (o.value? name)

def labels (o : Outputs) (name : String) : Assoc String :=
  .ofList (Json.asStringMap (o.value? name))

end Outputs
end Provision
