import Provision.Failure
import Provision.Json.Printer

/-!
Argument records as terraform flags: one `-var name=text` pair for each field that is set, in
increasing order of the names. Scalars stand as they are; containers as compact JSON.
-/

set_option autoImplicit false

namespace Provision.Variables

def textOf? : Json → Option String
  | .null => none
  | .bool true => some "true"
  | .bool false => some "false"
  | .num n => some (String.ofList n.text)
  | .str s => some s
  | .arr xs => some (Json.arr xs).compact
  | .obj ms => some (Json.obj ms).compact

def flagsOf (name : String) (v : Json) : Except Failure (List String) :=
  if v.isZero then .ok []
  else
    match textOf? v with
    | some t => .ok ["-var", name ++ "=" ++ t]
    | none => .error (.encode "null has no variable form")

def flagsOfMembers : List (String × Json) → Except Failure (List String)
  | [] => .ok []
  | (k, v) :: ms =>
    match flagsOf k v with
    | .error e => .error e
    | .ok fs =>
      match flagsOfMembers ms with
      | .error e => .error e
      | .ok gs => .ok (fs ++ gs)

/-- The flags of a record, sorted by name. Only objects have fields. -/
def encode : Json → Except Failure (List String)
  | .obj ms => flagsOfMembers (sortMembers ms)
  | j => .error (.encode ("argument record must serialise to an object, got " ++ j.kindText))

def combine (record : Json) (extra : List String) : Except Failure (List String) :=
  (encode record).map (· ++ extra)

/-- Variable files in the order given; terraform lets later files win. -/
def encodeFiles (files : List Path) : List String := files.map fun f => "-var-file=" ++ f.text

end Provision.Variables
