import Provision.Json.Path
import Provision.Json.Reader
import Provision.Text.Blank

set_option autoImplicit false

namespace Provision

structure StateDocument where
  document : Json
deriving DecidableEq

namespace StateDocument

/-- A blank text stands for an empty state; any other has to be a document. -/
def parse? (raw : String) : Option StateDocument :=
  if Text.allBlank raw then some ⟨.obj []⟩ else (Json.parse raw).map .mk

def isNamed (typeName name : String) (r : Json) : Bool :=
  r.member? "type" == some (.str typeName) && r.member? "name" == some (.str name)

def resources (module : Json) : List Json := Json.asArray (module.dig ["resources"])

def children (module : Json) : List Json := Json.asArray (module.dig ["child_modules"])

mutual
/-- The values of the first resource of a type and name in a module: its own resources first, then
its child modules in order. A resource without values ends the search in its module. -/
def find? (typeName name : String) : Json → Option Json
  | .obj ms =>
    match (resources (.obj ms)).find? (isNamed typeName name) with
    | some r => r.member? "values"
    | none => findMember? typeName name ms
  | _ => none
def findMember? (typeName name : String) : List (String × Json) → Option Json
  | [] => none
  | (k, v) :: ms =>
    if k = "child_modules" then
      match v with
      | .arr xs => findFirst? typeName name xs
      | _ => none
    else findMember? typeName name ms
def findFirst? (typeName name : String) : List Json → Option Json
  | [] => none
  | x :: xs =>
    match find? typeName name x with
    | some v => some v
    | none => findFirst? typeName name xs
end

def resource? (s : StateDocument) (typeName name : String) : Option Json :=
  (s.document.dig ["values", "root_module"]).bind (find? typeName name)

end StateDocument
end Provision
