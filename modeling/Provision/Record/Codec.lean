import Provision.Json.Written

set_option autoImplicit false

namespace Provision

class Encode (α : Type) where
  encode : α → Json

class Decode (α : Type) where
  decode : Written → Option α

export Encode (encode)
export Decode (decode)

namespace Record

instance : Encode String := ⟨.str⟩

instance : Decode String where
  decode
    | .str s => some s
    | _ => none

instance : Encode Bool := ⟨.bool⟩

instance : Decode Bool where
  decode
    | .bool b => some b
    | _ => none

instance : Encode Int64 := ⟨fun n => .ofInt n.toInt⟩

/-- A number with a fraction part is refused, even a zero one, and so is one out of range. -/
instance : Decode Int64 where
  decode
    | .num (.int n) =>
      if Json.leastInt64 ≤ n ∧ n ≤ Json.greatestInt64 then some (.ofInt n) else none
    | _ => none

/-- Documents know finite numbers only; any other is null. -/
instance : Encode Binary64.Extended where
  encode
    | .finite x => .num (.float x)
    | _ => .null

instance : Decode Binary64.Extended where
  decode
    | .num n => n.toBinary64?.map .finite
    | _ => none

instance : Encode Json := ⟨id⟩

instance : Decode Json := ⟨Written.value?⟩

variable {α : Type}

def encodeItems [Encode α] : List α → List Json
  | [] => []
  | x :: xs => encode x :: encodeItems xs

def decodeItems [Decode α] : List Written → Option (List α)
  | [] => some []
  | w :: ws => do
    let x ← decode w
    let xs ← decodeItems ws
    some (x :: xs)

instance [Encode α] : Encode (List α) := ⟨fun xs => .arr (encodeItems xs)⟩

/-- One bad item spoils the list. -/
instance [Decode α] : Decode (List α) where
  decode
    | .arr ws => decodeItems ws
    | _ => none

def encodeEntries [Encode α] : List (String × α) → List (String × Json)
  | [] => []
  | (k, x) :: ms => (k, encode x) :: encodeEntries ms

def decodeEntries [Decode α] : List (String × Written) → Option (List (String × α))
  | [] => some []
  | (k, w) :: ms => do
    let x ← decode w
    let xs ← decodeEntries ms
    some ((k, x) :: xs)

instance [Encode α] : Encode (Assoc α) := ⟨fun m => .obj (encodeEntries m.entries)⟩

/-- Every value has to be good, also one that a later value of its name replaces. -/
instance [Decode α] : Decode (Assoc α) where
  decode
    | .obj ms => (decodeEntries ms).map .ofList
    | _ => none

def ofJson? [Decode α] (j : Json) : Option α := decode j.written

end Record
end Provision
