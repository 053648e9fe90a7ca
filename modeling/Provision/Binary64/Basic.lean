/-!
Finite double precision numbers, in exact integer arithmetic. The non-negative ones are numbered
in increasing order by `code`, which is their bit pattern; `rounded` gives the code nearest to a
ratio of two naturals, with a half going to the even code.
-/

set_option autoImplicit false

namespace Provision

def Binary64.binade : Nat := 4503599627370496

/-- The code of infinity, one past the greatest finite double. -/
def Binary64.limit : Nat := 2047 * binade

/-- A finite double: a sign, and the place of its absolute value among the non-negative ones. -/
structure Binary64 where
  negative : Bool
  code : Nat
  finite : code < Binary64.limit := by decide
deriving DecidableEq

namespace Binary64

def zero : Binary64 := ⟨false, 0, by decide⟩

instance : Inhabited Binary64 := ⟨zero⟩

def isZero (x : Binary64) : Bool := x.code == 0

def significand (code : Nat) : Nat :=
  if code < binade then code else binade + code % binade

def exponent (code : Nat) : Int :=
  if code < binade then -1074 else (code / binade : Nat) - 1075

def numerator (code : Nat) : Nat := significand code * Nat.pow 2 (exponent code).toNat

def denominator (code : Nat) : Nat := Nat.pow 2 (-exponent code).toNat

def integerPart (x : Binary64) : Nat := numerator x.code / denominator x.code

def truncate (x : Binary64) : Int :=
  if x.negative then -(x.integerPart : Int) else x.integerPart

def nearest (num den : Nat) : Nat :=
  let q := num / den
  let r := num % den
  if den < 2 * r ∨ (2 * r = den ∧ q % 2 = 1) then q + 1 else q

/-- The greatest `k` with `2 ^ k ≤ num / den`, for positive `num` and `den`. -/
def binaryOrder (num den : Nat) : Int :=
  let k : Int := (num.log2 : Int) - (den.log2 : Int)
  if num * Nat.pow 2 (-k).toNat < den * Nat.pow 2 k.toNat then k - 1 else k

/-- The code nearest to `num / den`; it reaches `limit` when the ratio is out of range. -/
def rounded (num den : Nat) : Nat :=
  if num = 0 then 0
  else
    let q := max (binaryOrder num den - 52) (-1074)
    (q + 1074).toNat * binade +
      nearest (num * Nat.pow 2 (-q).toNat) (den * Nat.pow 2 q.toNat)

def ofCode? (negative : Bool) (code : Nat) : Option Binary64 :=
  if h : code < limit then some ⟨negative, code, h⟩ else none

def ofInt? (n : Int) : Option Binary64 := ofCode? (n < 0) (rounded n.natAbs 1)

/-- The product of an absolute value with `10 ^ k`, rounded once after the power is rounded. -/
def scaleUp (code k : Nat) : Nat :=
  let p := rounded (Nat.pow 10 k) 1
  rounded (numerator code * numerator p) (denominator code * denominator p)

/-- The quotient of an absolute value by `10 ^ k`, rounded once after the power is rounded. -/
def scaleDown (code k : Nat) : Nat :=
  let p := rounded (Nat.pow 10 k) 1
  rounded (numerator code * denominator p) (denominator code * numerator p)

inductive Extended where
  | finite (x : Binary64)
  | infinite (negative : Bool)
  | notANumber
deriving DecidableEq

end Binary64
end Provision
