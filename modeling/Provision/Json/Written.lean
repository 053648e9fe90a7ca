import Provision.Json.Basic

/-!
A document as it was written: members in their written order, with repetitions. Parts that are
well formed and yet have no value (a number out of range, a lone surrogate, a container nested too
deep) are `void`; they matter only to a reader that looks at them.
-/

set_option autoImplicit false

namespace Provision

/-- A document before repeated members are merged. -/
inductive Written where
  | null
  | bool (b : Bool)
  | num (n : Json.Number)
  | str (s : String)
  | arr (items : List Written)
  | obj (members : List (String × Written))
  | void
deriving Inhabited

namespace Written

mutual
/-- The document, unless some part has no value. Of repeated members the last counts. -/
def value? : Written → Option Json
  | .null => some .null
  | .bool b => some (.bool b)
  | .num n => some (.num n)
  | .str s => some (.str s)
  | .arr xs => (valueItems? xs).map .arr
  | .obj ms => (valueMembers? ms).map Json.ofMembers
  | .void => none
def valueItems? : List Written → Option (List Json)
  | [] => some []
  | x :: xs => do
    let v ← value? x
    let vs ← valueItems? xs
    some (v :: vs)
def valueMembers? : List (String × Written) → Option (List (String × Json))
  | [] => some []
  | (k, x) :: ms => do
    let v ← value? x
    let vs ← valueMembers? ms
    some ((k, v) :: vs)
end

end Written

namespace Json

mutual
def written : Json → Written
  | .null => .null
  | .bool b => .bool b
  | .num n => .num n
  | .str s => .str s
  | .arr xs => .arr (writtenItems xs)
  | .obj ms => .obj (writtenMembers ms)
def writtenItems : List Json → List Written
  | [] => []
  | x :: xs => written x :: writtenItems xs
def writtenMembers : List (String × Json) → List (String × Written)
  | [] => []
  | (k, x) :: ms => (k, written x) :: writtenMembers ms
end

end Json
end Provision
