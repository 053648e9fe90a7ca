import Provision.Binary64.Basic

/-!
The shortest decimal of a double. Of all decimals that round to the number, those on the coarsest
grid of multiples of a power of ten have the fewest digits; the one nearest to the number is
taken, and of two equally near the even one.
-/

set_option autoImplicit false

namespace Provision.Binary64

structure Decimal where
  digits : Nat
  scale : Int
deriving DecidableEq

/-- The decimals that round to a code, as multiples of a quarter of its last place: between `low`
and `high`, with the ends if `closed`. Just above a power of two the lower gap is half as wide. -/
structure Interval where
  low : Nat
  middle : Nat
  high : Nat
  closed : Bool

def interval (code : Nat) : Interval :=
  let m := significand code
  { low := if code % binade = 0 ∧ 2 * binade ≤ code then 4 * m - 1 else 4 * m - 2
    middle := 4 * m
    high := 4 * m + 2
    closed := m % 2 == 0 }

/-- The `d`-th multiple of a grid lies in the interval, where `b` units make one multiple and `a` units
a quarter of the last place. -/
def Interval.holds (i : Interval) (a b d : Nat) : Bool :=
  if i.closed then i.low * a ≤ d * b && d * b ≤ i.high * a
  else i.low * a < d * b && d * b < i.high * a

/-- A multiple of `10 ^ g` in the interval, if there is one. The multiples below and above the number
are tried. -/
def onGrid? (code : Nat) (g : Int) : Option Nat :=
  let i := interval code
  let q := exponent code - 2
  let a := Nat.pow 2 q.toNat * Nat.pow 10 (-g).toNat
  let b := Nat.pow 2 (-q).toNat * Nat.pow 10 g.toNat
  let below := i.middle * a / b
  let above := below + 1
  let down := i.middle * a - below * b
  let up := above * b - i.middle * a
  if i.holds a b below && i.holds a b above then
    if down < up ∨ (down = up ∧ below % 2 = 0) then some below else some above
  else if i.holds a b below then some below
  else if i.holds a b above then some above
  else none

def grids : List Int := (List.range 633).map fun (k : Nat) => 308 - (k : Int)

/-- The shortest decimal of a code; zero has none. -/
def shortest? (code : Nat) : Option Decimal :=
  if code = 0 then none
  else grids.findSome? fun g => (onGrid? code g).map fun d => ⟨d, g⟩

end Provision.Binary64
