/-!
Random names. Where the random digits come from is left open: a supply is any sequence of chunks.
Every chunk has the same positive length, so that drawing enough digits always ends.
-/

set_option autoImplicit false

namespace Provision.Names

def chunkLength : Nat := 32

def isLowerHex (c : Char) : Bool := c.isDigit || ('a' ≤ c && c ≤ 'f')

structure Chunk where
  digits : List Char
  length_digits : digits.length = chunkLength
  isLowerHex_digits : digits.all isLowerHex = true

abbrev Supply := Nat → Chunk

def hexDigits : Nat → Nat → List Char
  | 0, _ => []
  | k + 1, n => hexDigits k (n / 16) ++ [Nat.digitChar (n % 16)]

theorem length_hexDigits (k n : Nat) : (hexDigits k n).length = k := by
  induction k generalizing n with
  | zero => rfl
  | succ k ih => simp [hexDigits, ih]

theorem isLowerHex_digitChar {n : Nat} (h : n < 16) : isLowerHex (Nat.digitChar n) = true := by
  have all : ∀ m : Fin 16, isLowerHex (Nat.digitChar m) = true := by decide
  exact all ⟨n, h⟩

theorem isLowerHex_hexDigits (k n : Nat) : (hexDigits k n).all isLowerHex = true := by
  induction k generalizing n with
  | zero => rfl
  | succ k ih => simp [hexDigits, ih, isLowerHex_digitChar (Nat.mod_lt n (by omega : 0 < 16))]

def Chunk.ofNat (n : Nat) : Chunk :=
  ⟨hexDigits chunkLength n, length_hexDigits _ _, isLowerHex_hexDigits _ _⟩

/-- Draws chunks, from the `i`th on, until there are at least `n` digits. -/
def draw (supply : Supply) (n i : Nat) (drawn : List Char) : List Char :=
  if drawn.length < n then draw supply n (i + 1) (drawn ++ (supply i).digits) else drawn
termination_by n - drawn.length
decreasing_by
  have := (supply i).length_digits
  simp only [List.length_append, this, chunkLength]
  omega

/-- The letters are upper case and lower case in turn, starting with the given case. -/
def alternate : Bool → List Char → List Char
  | _, [] => []
  | upper, c :: cs =>
    if c.isAlpha then (if upper then c.toUpper else c) :: alternate (!upper) cs
    else c :: alternate upper cs

/-- Puts an upper-case letter in front of a text that has none, instead of its first character. -/
def withUpper (cs : List Char) : List Char :=
  if cs.any Char.isUpper then cs
  else
    match cs with
    | [] => []
    | _ :: cs => 'A' :: cs

/-- A text of `n` random digits with at least one upper-case letter, good as a secret. -/
def secret (supply : Supply) (n : Nat) : String :=
  String.ofList (withUpper (alternate true ((draw supply n 0 []).take n)))

def suffixLength : Nat := 6

def unique (stem : String) (c : Chunk) : String :=
  stem ++ "-" ++ String.ofList (c.digits.take suffixLength)

end Provision.Names
