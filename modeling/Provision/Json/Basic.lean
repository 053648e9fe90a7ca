import Provision.Assoc
import Provision.Json.Number

/-!
Documents. The members of an object stand in increasing order of their names, each name once;
`Json.ofMembers` brings members into that order, and of a repeated name keeps the last.
-/

set_option autoImplicit false

namespace Provision

/-- What is said of a text that cannot be read, by the text. -/
abbrev Wording := String → String

inductive Json where
  | null
  | bool (b : Bool)
  | num (n : Json.Number)
  | str (s : String)
  | arr (items : List Json)
  | obj (members : List (String × Json))
deriving Inhabited

namespace Json

mutual
def same : Json → Json → Bool
  | .null, .null => true
  | .bool a, .bool b => a == b
  | .num a, .num b => decide (a = b)
  | .str a, .str b => a == b
  | .arr a, .arr b => sameItems a b
  | .obj a, .obj b => sameMembers a b
  | _, _ => false
def sameItems : List Json → List Json → Bool
  | [], [] => true
  | a :: as, b :: bs => same a b && sameItems as bs
  | _, _ => false
def sameMembers : List (String × Json) → List (String × Json) → Bool
  | [], [] => true
  | (k, a) :: as, (l, b) :: bs => k == l && same a b && sameMembers as bs
  | _, _ => false
end

mutual
theorem same_iff : ∀ a b : Json, same a b = true ↔ a = b
  | .null, b => by cases b <;> simp [same]
  | .bool _, b => by cases b <;> simp [same]
  | .num _, b => by cases b <;> simp [same]
  | .str _, b => by cases b <;> simp [same]
  | .arr xs, b => by cases b <;> simp [same, sameItems_iff xs]
  | .obj xs, b => by cases b <;> simp [same, sameMembers_iff xs]
theorem sameItems_iff : ∀ xs ys : List Json, sameItems xs ys = true ↔ xs = ys
  | [], ys => by cases ys <;> simp [sameItems]
  | x :: xs, ys => by cases ys <;> simp [sameItems, same_iff x, sameItems_iff xs]
theorem sameMembers_iff : ∀ xs ys : List (String × Json), sameMembers xs ys = true ↔ xs = ys
  | [], ys => by cases ys <;> simp [sameMembers]
  | (k, x) :: xs, ys => by
    cases ys with
    | nil => simp [sameMembers]
    | cons y ys => simp [sameMembers, same_iff x, sameMembers_iff xs, Prod.ext_iff]
end

instance : DecidableEq Json := fun a b => decidable_of_iff (same a b = true) (same_iff a b)

/-- An object from members in any order. -/
def ofMembers (ms : List (String × Json)) : Json := .obj (sortMembers ms)

def ofStrings (ss : List String) : Json := .arr (ss.map .str)

def ofInt (n : Int) : Json := .num (.int n)

def member? (name : String) : Json → Option Json
  | .obj ms => ms.lookup name
  | _ => none

/-- A null, a false, any zero, an empty text, an empty array and an empty object stand for a field
that is not set. -/
def isZero : Json → Bool
  | .null => true
  | .bool b => !b
  | .num n => n.isZero
  | .str s => s.isEmpty
  | .arr xs => xs.isEmpty
  | .obj ms => ms.isEmpty

def kindText : Json → String
  | .null => "null"
  | .bool _ => "a boolean"
  | .num _ => "a number"
  | .str _ => "a string"
  | .arr _ => "an array"
  | .obj _ => "an object"

end Json
end Provision
