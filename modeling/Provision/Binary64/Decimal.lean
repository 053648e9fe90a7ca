import Provision.Binary64.Basic

set_option autoImplicit false

namespace Provision.Binary64

def digitsValue (ds : List Char) : Nat :=
  ds.foldl (fun n c => 10 * n + (c.toNat - '0'.toNat)) 0

/-- The code nearest to `n · 10 ^ e`, where `n` has at most `width` digits. Far outside the range of
doubles no power is computed. -/
def ofDecimal (n width : Nat) (e : Int) : Nat :=
  if n = 0 then 0
  else if e + width > 400 then limit
  else if e + width < -400 then 0
  else rounded (n * Nat.pow 10 e.toNat) (Nat.pow 10 (-e).toNat)

def readSign : List Char → Bool × List Char
  | '-' :: cs => (true, cs)
  | '+' :: cs => (false, cs)
  | cs => (false, cs)

def readExponent : List Char → Option Int
  | [] => some 0
  | c :: cs =>
    if c = 'e' ∨ c = 'E' then
      let (negative, ds) := readSign cs
      if ds.isEmpty || !ds.all Char.isDigit then none
      else some (if negative then -(digitsValue ds : Int) else digitsValue ds)
    else none

def readPlain (negative : Bool) (cs : List Char) : Option Extended :=
  let whole := cs.takeWhile Char.isDigit
  let rest := cs.dropWhile Char.isDigit
  let (part, tail) := match rest with
    | '.' :: r => (r.takeWhile Char.isDigit, r.dropWhile Char.isDigit)
    | r => ([], r)
  if whole.isEmpty && part.isEmpty then none
  else (readExponent tail).map fun e =>
    let ds := whole ++ part
    let width := (ds.dropWhile (· = '0')).length
    match ofCode? negative (ofDecimal (digitsValue ds) width (e - part.length)) with
    | some x => .finite x
    | none => .infinite negative

def read (s : String) : Option Extended :=
  let (negative, cs) := readSign s.toList
  let word := String.ofList (cs.map Char.toLower)
  if word = "inf" ∨ word = "infinity" then some (.infinite negative)
  else if word = "nan" then some .notANumber
  else readPlain negative cs

end Provision.Binary64
