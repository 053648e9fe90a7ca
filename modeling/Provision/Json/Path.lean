import Provision.Json.Basic

/-!
Digging into documents along a path of segments. At an object a segment is a name, at an array it
is an index; everywhere else the path ends in absence. The typed readers give the zero of their
type when the path is absent or leads to a document of another kind.
-/

set_option autoImplicit false

namespace Provision.Json

def decimalValue (ds : List Char) : Nat :=
  ds.foldl (fun n c => 10 * n + (c.toNat - '0'.toNat)) 0

def afterPlus : List Char → List Char
  | '+' :: cs => cs
  | cs => cs

/-- A natural number below `2 ^ 64`: an optional plus, then at least one digit. -/
def natural64? (s : String) : Option Nat :=
  let ds := afterPlus s.toList
  if ds.isEmpty || !ds.all Char.isDigit then none
  else
    let n := decimalValue ds
    if n < UInt64.size then some n else none

def step (j : Json) (segment : String) : Option Json :=
  match j with
  | .obj ms => ms.lookup segment
  | .arr xs => (natural64? segment).bind fun i => xs[i]?
  | _ => none

def dig (j : Json) : List String → Option Json
  | [] => some j
  | s :: path => (j.step s).bind fun k => k.dig path

theorem dig_append (j : Json) (p q : List String) :
    j.dig (p ++ q) = (j.dig p).bind fun k => k.dig q := by
  induction p generalizing j with
  | nil => rfl
  | cons s p ih =>
    simp only [List.cons_append, dig]
    cases j.step s with
    | none => rfl
    | some k => exact ih k

def clamp64 (n : Int) : Int := max leastInt64 (min n greatestInt64)

def asString : Option Json → String
  | some (.str s) => s
  | _ => ""

/-- The number as an integer with a sign, else as one without, else as a double. The last two are cut
off at the ends of the range, and a double loses its fraction. -/
def Number.toInt64 (n : Number) : Int :=
  match n.signed64? with
  | some i => i
  | none =>
    match n.unsigned64? with
    | some u => min (u : Int) greatestInt64
    | none =>
      match n.toBinary64? with
      | some x => clamp64 x.truncate
      | none => 0

theorem Number.toInt64_eq {n : Number} (h : n.InRange) : n.toInt64 = clamp64 n.truncate := by
  cases n with
  | int n =>
    obtain ⟨hl, hg⟩ := h
    by_cases hs : n ≤ greatestInt64
    · have hn : (Number.int n).signed64? = some n := if_pos ⟨hl, hs⟩
      simp only [toInt64, hn, clamp64, truncate]
      omega
    · have hn : (Number.int n).signed64? = none := if_neg fun hr => hs hr.2
      have h0 : 0 ≤ n := by
        simp only [greatestInt64] at hs
        omega
      have hu : (Number.int n).unsigned64? = some n.toNat := if_pos ⟨h0, hg⟩
      simp only [toInt64, hn, hu, clamp64, truncate, leastInt64, greatestInt64] at hs ⊢
      omega
  | float x => rfl

def asInt : Option Json → Int
  | some (.num n) => n.toInt64
  | _ => 0

def asFloat : Option Json → Binary64
  | some (.num n) => n.toBinary64?.getD .zero
  | _ => .zero

def asBool : Option Json → Bool
  | some (.bool b) => b
  | _ => false

def asStringMap : Option Json → List (String × String)
  | some (.obj ms) => ms.filterMap fun (k, v) =>
    match v with
    | .str s => some (k, s)
    | _ => none
  | _ => []

def asArray : Option Json → List Json
  | some (.arr xs) => xs
  | _ => []

end Provision.Json
