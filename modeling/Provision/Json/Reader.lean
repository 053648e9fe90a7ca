import Provision.Json.Token
import Provision.Json.Written

set_option autoImplicit false

namespace Provision

namespace Json

def maxDepth : Nat := 127

namespace Reader

mutual
/-- One value at the start of the tokens. `room` is how many levels may still be opened. -/
def value : Nat → Nat → List Token → Option (Written × List Token)
  | 0, _, _ => none
  | fuel + 1, room, t :: ts =>
    match t with
    | .null => some (.null, ts)
    | .bool b => some (.bool b, ts)
    | .num (some n) => some (.num n, ts)
    | .num none => some (.void, ts)
    | .str (some s) => some (.str s, ts)
    | .str none => some (.void, ts)
    | .openArray => do
      let (xs, rest) ← match ts with
        | .closeArray :: rest => some ([], rest)
        | _ => items fuel (room - 1) ts
      some (if room = 0 then .void else .arr xs, rest)
    | .openObject => do
      let (ms, rest) ← match ts with
        | .closeObject :: rest => some (some [], rest)
        | _ => members fuel (room - 1) ts
      some (match ms with
        | some ms => if room = 0 then .void else .obj ms
        | none => .void, rest)
    | _ => none
  | _ + 1, _, [] => none
def items : Nat → Nat → List Token → Option (List Written × List Token)
  | 0, _, _ => none
  | fuel + 1, room, ts => do
    let (x, rest) ← value fuel room ts
    match rest with
    | .closeArray :: rest => some ([x], rest)
    | .comma :: rest =>
      let (xs, rest) ← items fuel room rest
      some (x :: xs, rest)
    | _ => none
/-- Members up to the end of an object, at least one. If a name has no value, neither has the
object. -/
def members : Nat → Nat → List Token → Option (Option (List (String × Written)) × List Token)
  | 0, _, _ => none
  | fuel + 1, room, ts =>
    match ts with
    | .str name :: .colon :: ts => do
      let (x, rest) ← value fuel room ts
      let head : Option (String × Written) := name.map fun k => (k, x)
      match rest with
      | .closeObject :: rest => some (head.map fun m => [m], rest)
      | .comma :: rest =>
        let (ms, rest) ← members fuel room rest
        some (do some ((← head) :: (← ms)), rest)
      | _ => none
    | _ => none
end

end Reader

def readWritten (s : String) : Option Written := do
  let ts ← tokens? s.toList
  match Reader.value (2 * ts.length + 2) maxDepth ts with
  | some (w, []) => some w
  | _ => none

def parse (s : String) : Option Json := (readWritten s).bind Written.value?

end Json
end Provision
