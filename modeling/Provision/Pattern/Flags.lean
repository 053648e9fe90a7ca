set_option autoImplicit false

namespace Provision

namespace Pattern

inductive Flag where
  | caseless
  | lines
  | dotAll
  | lazy
  | unicode
  | returns
  | spaced
deriving DecidableEq, Repr

namespace Flag

def letters : List (Char × Flag) := [
  ('i', .caseless),
  ('m', .lines),
  ('s', .dotAll),
  ('U', .lazy),
  ('u', .unicode),
  ('R', .returns),
  ('x', .spaced)]

def ofLetter? (c : Char) : Option Flag := letters.lookup c

end Flag

structure Change where
  on : List Flag := []
  off : List Flag := []
deriving DecidableEq, Repr

namespace Change

def isEmpty (c : Change) : Bool := c.on.isEmpty && c.off.isEmpty

def apply (c : Change) (f : Flag) (before : Bool) : Bool :=
  if f ∈ c.on then true else if f ∈ c.off then false else before

def add (c : Change) (f : Flag) (negated : Bool) : Change :=
  if negated then { c with off := f :: c.off } else { c with on := f :: c.on }

/-- Reads letters up to a colon or a closing parenthesis, which comes back with the text behind it.
No letter may stand twice; one dash turns off what follows it, and something has to follow it. -/
def read? (negated : Bool) (c : Change) : List Char → Option (Change × Char × List Char)
  | [] => none
  | x :: cs =>
    if x = ':' ∨ x = ')' then some (c, x, cs)
    else if x = '-' then
      if negated || cs.head? = some ':' || cs.head? = some ')' then none else read? true c cs
    else
      match Flag.ofLetter? x with
      | none => none
      | some f => if f ∈ c.on ∨ f ∈ c.off then none else read? negated (c.add f negated) cs

end Change

structure Flags where
  caseless : Bool := false
  unicode : Bool := true
deriving DecidableEq, Repr

namespace Flags

def change (f : Flags) (c : Change) : Flags where
  caseless := c.apply .caseless f.caseless
  unicode := c.apply .unicode f.unicode

def folds (f : Flags) : Bool := f.caseless && f.unicode

end Flags
end Pattern
end Provision
