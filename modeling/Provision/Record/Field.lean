import Provision.Record.Codec

/-!
Records as tables of fields. A record is written as an object with a member for each field that is
set. It is read from an object, where members of other names are passed over and a field may
appear once, or from an array that lists the fields in their order and may stop early.
-/

set_option autoImplicit false

namespace Provision

structure Field (ρ : Type) where
  name : String
  encode : ρ → Option Json
  decode : Written → ρ → Option ρ

namespace Field

variable {ρ α : Type}

/-- A field that may be unset. Null unsets it; unset it is not written. -/
def optional [Encode α] [Decode α] (name : String) (get : ρ → Option α) (set : Option α → ρ → ρ) :
    Field ρ where
  name := name
  encode r := (get r).map Encode.encode
  decode w r :=
    match w with
    | .null => some (set none r)
    | w => (Decode.decode w).map fun v => set (some v) r

/-- A field that always has a value; null is no value. -/
def plain [Encode α] [Decode α] (name : String) (get : ρ → α) (set : α → ρ → ρ) : Field ρ where
  name := name
  encode r := some (Encode.encode (get r))
  decode w r := (Decode.decode w).map fun v => set v r

end Field

/-- Records with a table of fields in their order, and the record with every field at its default.
-/
class Record (ρ : Type) where
  fields : List (Field ρ)
  empty : ρ

namespace Record

variable {ρ : Type}

def membersOf (r : ρ) : List (Field ρ) → List (String × Json)
  | [] => []
  | f :: fs =>
    match f.encode r with
    | some v => (f.name, v) :: membersOf r fs
    | none => membersOf r fs

def document [Record ρ] (r : ρ) : Json := .ofMembers (membersOf r fields)

def readMembers (ms : List (String × Written)) : List (Field ρ) → ρ → Option ρ
  | [], r => some r
  | f :: fs, r =>
    match ms.filter fun m => m.1 == f.name with
    | [] => readMembers ms fs r
    | [m] => (f.decode m.2 r).bind (readMembers ms fs)
    | _ => none

def readItems : List (Field ρ) → List Written → ρ → Option ρ
  | _, [], r => some r
  | [], _ :: _, _ => none
  | f :: fs, w :: ws, r => (f.decode w r).bind (readItems fs ws)

def read? [Record ρ] : Written → Option ρ
  | .obj ms => readMembers ms fields empty
  | .arr ws => readItems fields ws empty
  | _ => none

instance [Record ρ] : Encode ρ := ⟨document⟩

instance [Record ρ] : Decode ρ := ⟨read?⟩

end Record
end Provision
