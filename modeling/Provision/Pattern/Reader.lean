import Provision.Pattern.Brackets

/-!
Reading regular expressions. A group is closed, a repetition has something to repeat, and no two
groups have one name. Repetitions are not counted, as nothing in braces is read.
-/

set_option autoImplicit false

namespace Provision.Pattern

/-- A group, or the whole, as far as it has been read: its finished branches, and the parts of the
one that follows them, the latest first. -/
structure Branches where
  finished : List Pattern := []
  parts : List Pattern := []

namespace Branches

def add (b : Branches) (p : Pattern) : Branches := { b with parts := p :: b.parts }

def finish (b : Branches) : Branches := ⟨ofParts b.parts.reverse :: b.finished, []⟩

def pattern (b : Branches) : Pattern :=
  match b.finish.finished with
  | [p] => p
  | ps => .choice ps.reverse

/-- Repeats the last part; a change of flags cannot be repeated. -/
def repeatLast? (b : Branches) : Option Branches :=
  match b.parts with
  | [] => none
  | .flags _ :: _ => none
  | p :: ps => some { b with parts := .repeated p :: ps }

end Branches

structure Surrounding where
  change : Change
  spaced : Bool
  branches : Branches

structure Reading where
  spaced : Bool := false
  names : List (List Char) := []
  current : Branches := {}
  outer : List Surrounding := []

namespace Reading

def add (r : Reading) (p : Pattern) : Reading := { r with current := r.current.add p }

def openGroup (r : Reading) (c : Change) : Reading :=
  { r with
    spaced := c.apply .spaced r.spaced
    current := {}
    outer := ⟨c, r.spaced, r.current⟩ :: r.outer }

def closeGroup? (r : Reading) : Option Reading :=
  match r.outer with
  | [] => none
  | s :: outer => some { r with
      spaced := s.spaced
      current := s.branches.add (.group s.change r.current.pattern)
      outer }

def change (r : Reading) (c : Change) : Reading :=
  { r.add (.flags c) with spaced := c.apply .spaced r.spaced }

def named? (r : Reading) (cs : List Char) : Option (Reading × List Char) := do
  let (name, rest) ← nameFrom? true cs
  if r.names.contains name then none
  else some ({ r.openGroup {} with names := name :: r.names }, rest)

/-- Reads what follows an opening parenthesis. Flags in parentheses of their own may not be empty.
-/
def parenthesis? (r : Reading) (cs : List Char) : Option (Reading × List Char) :=
  match skip r.spaced cs with
  | '?' :: 'P' :: '<' :: rest => r.named? rest
  | '?' :: '<' :: rest => r.named? rest
  | '?' :: rest =>
    match Change.read? false {} rest with
    | none => none
    | some (c, closing, rest) =>
      if closing = ':' then some (r.openGroup c, rest)
      else if c.isEmpty then none
      else some (r.change c, rest)
  | rest => some (r.openGroup {}, rest)

def withoutMark : List Char → List Char
  | '?' :: cs => cs
  | cs => cs

/-- Takes a part that starts with a character; one in brackets takes fewer steps than `fuel`. -/
def step? (r : Reading) (fuel : Nat) (c : Char) (cs : List Char) : Option (Reading × List Char) :=
  match c with
  | '(' => r.parenthesis? cs
  | ')' => r.closeGroup?.map fun r => (r, cs)
  | '|' => some ({ r with current := r.current.finish }, cs)
  | '[' => (brackets? r.spaced fuel cs).map fun (p, rest) => (r.add p, rest)
  | '*' | '+' | '?' =>
    r.current.repeatLast?.map fun b => ({ r with current := b }, withoutMark cs)
  | '\x7b' => none
  | '.' => some (r.add .any, cs)
  | '^' | '$' => some (r.add (.edge false), cs)
  | c =>
    (Atom.read? r.spaced (c :: cs)).map fun
      | (.char c byte, rest) => (r.add (.char c byte), rest)
      | (.kind negated, rest) => (r.add (.kind negated), rest)
      | (.edge word, rest) => (r.add (.edge word), rest)

def rest? : Nat → Reading → List Char → Option Pattern
  | 0, _, _ => none
  | fuel + 1, r, cs =>
    match skip r.spaced cs with
    | [] => if r.outer.isEmpty then some r.current.pattern else none
    | c :: cs =>
      match r.step? fuel c cs with
      | none => none
      | some (r, rest) => rest? fuel r rest

end Reading

def ofList? (cs : List Char) : Option Pattern := Reading.rest? (cs.length + 1) {} cs

def isWellFormed (cs : List Char) : Bool := (ofList? cs).any isRunnable

end Provision.Pattern
