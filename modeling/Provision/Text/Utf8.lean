set_option autoImplicit false

namespace Provision.Text

def replacement : Char := Char.ofNat 0xFFFD

def secondRange? (lead : UInt8) : Option (Nat × UInt8 × UInt8) :=
  if 0xC2 ≤ lead && lead ≤ 0xDF then some (1, 0x80, 0xBF)
  else if lead == 0xE0 then some (2, 0xA0, 0xBF)
  else if 0xE1 ≤ lead && lead ≤ 0xEC then some (2, 0x80, 0xBF)
  else if lead == 0xED then some (2, 0x80, 0x9F)
  else if 0xEE ≤ lead && lead ≤ 0xEF then some (2, 0x80, 0xBF)
  else if lead == 0xF0 then some (3, 0x90, 0xBF)
  else if 0xF1 ≤ lead && lead ≤ 0xF3 then some (3, 0x80, 0xBF)
  else if lead == 0xF4 then some (3, 0x80, 0x8F)
  else none

def leadBits (lead : UInt8) : Nat → Nat
  | 1 => lead.toNat % 0x20
  | 2 => lead.toNat % 0x10
  | _ => lead.toNat % 0x08

/-- Where decoding stands: between characters, or inside a sequence that still owes bytes, of which
the next has to lie in a range. -/
inductive Pending where
  | none
  | owes (count : Nat) (low high : UInt8) (bits : Nat)

def startByte (b : UInt8) : List Char × Pending :=
  if b < 0x80 then ([Char.ofNat b.toNat], .none)
  else
    match secondRange? b with
    | some (n, low, high) => ([], .owes n low high (leadBits b n))
    | none => ([replacement], .none)

/-- One byte. A byte out of range ends the sequence before it and starts anew. -/
def takeByte (p : Pending) (b : UInt8) : List Char × Pending :=
  match p with
  | .none => startByte b
  | .owes n low high bits =>
    if low ≤ b && b ≤ high then
      let bits := bits * 0x40 + b.toNat % 0x40
      if n ≤ 1 then ([Char.ofNat bits], .none) else ([], .owes (n - 1) 0x80 0xBF bits)
    else
      let (cs, p) := startByte b
      (replacement :: cs, p)

/-- The characters of the bytes; a sequence cut off at the end is replaced. -/
def decodeFrom (p : Pending) : List UInt8 → List Char
  | [] => match p with
    | .none => []
    | .owes .. => [replacement]
  | b :: bs =>
    let (cs, p) := takeByte p b
    cs ++ decodeFrom p bs

def decode (bs : List UInt8) : String := String.ofList (decodeFrom .none bs)

end Provision.Text
