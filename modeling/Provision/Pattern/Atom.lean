import Provision.Text.Alphanumeric
import Provision.Text.Blank
import Provision.Text.Hexadecimal

set_option autoImplicit false

namespace Provision.Pattern

/-- Leaves out blanks, and comments, which go from a number sign to the end of the line. -/
def skipFrom : (comment : Bool) → List Char → List Char
  | _, [] => []
  | true, c :: cs => skipFrom (c ≠ '\n') cs
  | false, c :: cs =>
    if Text.isBlank c then skipFrom false cs
    else if c = '#' then skipFrom true cs
    else c :: cs

def skip (spaced : Bool) (cs : List Char) : List Char := if spaced then skipFrom false cs else cs

/-- The next character that is no blank; the first number sign in front of it is passed over. -/
def peek? (spaced : Bool) (cs : List Char) : Option Char :=
  if spaced then
    match cs.dropWhile Text.isBlank with
    | '#' :: rest => (rest.dropWhile Text.isBlank).head?
    | rest => rest.head?
  else cs.head?

inductive Atom where
  | char (c : Char) (byte : Bool)
  | kind (negated : Bool)
  | edge (word : Bool)
deriving DecidableEq

namespace Atom

def hex? (spaced : Bool) : (owed value : Nat) → List Char → Option (Nat × List Char)
  | 0, n, cs => some (n, cs)
  | k + 1, n, cs =>
    match skip spaced cs with
    | [] => none
    | c :: rest =>
      match Text.hexDigit? c with
      | none => none
      | some d => hex? spaced k (n * 16 + d) rest

def numbered? (spaced : Bool) (digits : Nat) (byte : Bool) (cs : List Char) :
    Option (Atom × List Char) := do
  let (n, rest) ← hex? spaced digits 0 cs
  let c ← Text.scalar? n
  some (.char c byte, rest)

def controls : List (Char × Char) := [
  ('a', '\x07'), ('f', '\x0c'), ('t', '\t'), ('n', '\n'), ('r', '\r'), ('v', '\x0b')]

def isMark (c : Char) : Bool := c.toNat < 0x80 && !c.isAlphanum

def escaped? (spaced : Bool) : List Char → Option (Atom × List Char)
  | [] => none
  | c :: cs =>
    if c = 'x' then numbered? spaced 2 true cs
    else if c = 'u' then numbered? spaced 4 false cs
    else if c = 'U' then numbered? spaced 8 false cs
    else if "dsw".toList.contains c then some (.kind false, cs)
    else if "DSW".toList.contains c then some (.kind true, cs)
    else if "Az".toList.contains c then some (.edge false, cs)
    else if "bB<>".toList.contains c then some (.edge true, cs)
    else
      match controls.lookup c with
      | some control => some (.char control false, cs)
      | none => if isMark c then some (.char c false, cs) else none

def read? (spaced : Bool) : List Char → Option (Atom × List Char)
  | [] => none
  | '\\' :: cs => escaped? spaced cs
  | c :: cs => some (.char c false, cs)

end Atom

def isNameChar (first : Bool) (c : Char) : Bool :=
  c = '_' || if first then Text.isAlphabetic c else Text.isAlphanumeric c || ".[]".toList.contains c

def nameFrom? : (first : Bool) → List Char → Option (List Char × List Char)
  | _, [] => none
  | first, c :: cs =>
    if c = '>' then if first then none else some ([], cs)
    else if isNameChar first c then
      (nameFrom? false cs).map fun (name, rest) => (c :: name, rest)
    else none

end Provision.Pattern
