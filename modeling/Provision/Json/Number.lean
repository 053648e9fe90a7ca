import Provision.Binary64.Shortest

/-!
Numbers of a document: integers from `-2 ^ 63` up to but not including `2 ^ 64`, and doubles. A
double is written with the fewest digits that read back: positional with at least one decimal when
its decimal exponent is at least -5 and below 16, scientific otherwise.
-/

set_option autoImplicit false

namespace Provision.Json

inductive Number where
  | int (n : Int)
  | float (x : Binary64)
deriving DecidableEq, Inhabited

def leastInt64 : Int := -9223372036854775808

def greatestInt64 : Int := 9223372036854775807

def natText (n : Nat) : List Char := Nat.toDigits 10 n

def intText (n : Int) : List Char :=
  if n < 0 then '-' :: natText n.natAbs else natText n.natAbs

def positional (e : Int) : Bool := -5 ≤ e && e < 16

def decimalText (d : Binary64.Decimal) : List Char :=
  let ds := natText d.digits
  let e : Int := ds.length - 1 + d.scale
  if positional e then
    if 0 ≤ d.scale then ds ++ List.replicate d.scale.toNat '0' ++ ['.', '0']
    else if 0 ≤ e then ds.take (e.toNat + 1) ++ '.' :: ds.drop (e.toNat + 1)
    else ['0', '.'] ++ List.replicate (-e - 1).toNat '0' ++ ds
  else
    let lead := match ds with
      | [c] => [c]
      | c :: rest => c :: '.' :: rest
      | [] => []
    lead ++ 'e' :: (if e < 0 then '-' else '+') :: natText e.natAbs

/-- The text of a double; zero keeps its sign. -/
def floatText (x : Binary64) : List Char :=
  (if x.negative then ['-'] else []) ++
    match Binary64.shortest? x.code with
    | some d => decimalText d
    | none => ['0', '.', '0']

def Number.text : Number → List Char
  | .int n => intText n
  | .float x => floatText x

def Number.isZero : Number → Bool
  | .int n => n == 0
  | .float x => x.isZero

def Number.toBinary64? : Number → Option Binary64
  | .int n => Binary64.ofInt? n
  | .float x => some x

def Number.InRange : Number → Prop
  | .int n => leastInt64 ≤ n ∧ n < UInt64.size
  | .float _ => True

instance (n : Number) : Decidable n.InRange :=
  match n with
  | .int n => inferInstanceAs (Decidable (leastInt64 ≤ n ∧ n < UInt64.size))
  | .float _ => inferInstanceAs (Decidable True)

def Number.signed64? : Number → Option Int
  | .int n => if leastInt64 ≤ n ∧ n ≤ greatestInt64 then some n else none
  | .float _ => none

def Number.unsigned64? : Number → Option Nat
  | .int n => if 0 ≤ n ∧ n < UInt64.size then some n.toNat else none
  | .float _ => none

def Number.truncate : Number → Int
  | .int n => n
  | .float x => x.truncate

/-- The code of `n · 10 ^ e`, for `n` below `2 ^ 64`. The digits are rounded first; then each
scaling by a power of ten, of which the greatest is `10 ^ 308`, rounds again. A product out of
range has no code. -/
def scaled? (n : Nat) (e : Int) : Option Nat :=
  let f := Binary64.rounded n 1
  if 0 ≤ e then
    if e ≤ 308 then
      let c := Binary64.scaleUp f e.toNat
      if c < Binary64.limit then some c else none
    else if n = 0 then some 0 else none
  else if -308 ≤ e then some (Binary64.scaleDown f (-e).toNat)
  else if -616 ≤ e then some (Binary64.scaleDown (Binary64.scaleDown f 308) (-e - 308).toNat)
  else some 0

/-- The digits of an integer part as far as they stay below `2 ^ 64`, and how many were left out. -/
def leadingDigits (ds : List Nat) : Nat × Nat :=
  ds.foldl (fun (n, dropped) d =>
    if dropped = 0 ∧ 10 * n + d < UInt64.size then (10 * n + d, 0) else (n, dropped + 1)) (0, 0)

/-- Digits of a fraction appended to `n` as far as the result stays below `2 ^ 64`, and how many. -/
def appendDigits (n : Nat) : List Nat → Nat × Nat
  | [] => (n, 0)
  | d :: ds =>
    if 10 * n + d < UInt64.size then
      let (m, k) := appendDigits (10 * n + d) ds
      (m, k + 1)
    else (n, 0)

structure Literal where
  negative : Bool
  whole : List Nat
  fraction : List Nat
  exponent : Option Int

/-- The number that a literal denotes. An integer out of range is a double, and so is minus zero; a
double out of range has no value. -/
def Literal.number? (l : Literal) : Option Number :=
  let (n, dropped) := leadingDigits l.whole
  if l.fraction.isEmpty && l.exponent.isNone && dropped == 0 then
    if !l.negative then some (.int n)
    else if n = 0 ∨ -(n : Int) < leastInt64 then
      (Binary64.ofCode? true (Binary64.rounded n 1)).map .float
    else some (.int (-(n : Int)))
  else
    let (m, used) := appendDigits n l.fraction
    let e : Int := dropped - used + l.exponent.getD 0
    (scaled? m e).bind fun c => (Binary64.ofCode? l.negative c).map .float

end Provision.Json
