import Provision.Json.Path
import Provision.Json.Reader
import Provision.Text.Blank

set_option autoImplicit false

namespace Provision

structure Outputs where
  document : Json
deriving DecidableEq

namespace Outputs

def empty : Outputs := ⟨.obj []⟩

/-- A blank text stands for no outputs; any other has to be an object. -/
def parse? (raw : String) : Option Outputs :=
  if Text.allBlank raw then some empty
  else
    match Json.parse raw with
    | some (.obj ms) => some ⟨.obj ms⟩
    | _ => none

def names (o : Outputs) : List String :=
  match o.document with
  | .obj ms => ms.map Prod.fst
  | _ => []

def entry? (o : Outputs) (name : String) : Option Json := o.document.member? name

def value? (o : Outputs) (name : String) : Option Json := o.document.dig [name, "value"]

def dig (o : Outputs) (path : List String) : Option Json := o.document.dig path

end Outputs
end Provision
