import Provision.Path
import Provision.Text.Pieces

set_option autoImplicit false

namespace Provision

/-- The end of a path: the place that the names before it lead to, the place above that one, or a
name below it, which a slash at the end of the path asks to be a directory. -/
inductive Tip where
  | here
  | above
  | name (n : String) (slash : Bool)
deriving DecidableEq

/-- Where a path starts, the names that it goes through, and its end. -/
structure Route where
  absolute : Bool
  through : List String
  tip : Tip
deriving DecidableEq

namespace Route

def tipOf (n : String) (slash : Bool) : Tip :=
  if n = "." then .here else if n = ".." then .above else .name n slash

def ofNames (absolute : Bool) (names : List String) (slash : Bool) : Route :=
  match names.getLast? with
  | none => ⟨absolute, [], .here⟩
  | some n => ⟨absolute, names.dropLast, tipOf n slash⟩

end Route

namespace Path

def names (p : Path) : List String :=
  ((Text.pieces '/' p.text.toList).filter fun n => !n.isEmpty).map String.ofList

def steps (p : Path) : List String := p.names.filter fun n => n != "."

def endsInSlash (p : Path) : Bool := p.text.toList.getLast? = some '/'

def below (ns : List String) : Path := ⟨String.ofList (ns.flatMap fun n => '/' :: n.toList)⟩

def route (p : Path) : Route := .ofNames p.isAbsolute p.names p.endsInSlash

end Path
end Provision
