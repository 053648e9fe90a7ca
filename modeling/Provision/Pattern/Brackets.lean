import Provision.Pattern.Atom
import Provision.Pattern.Basic

set_option autoImplicit false

namespace Provision.Pattern

def classNames : List String :=
  ["alnum", "alpha", "ascii", "blank", "cntrl", "digit", "graph", "lower", "print", "punct",
    "space", "upper", "word", "xdigit"]

def namedClass? : List Char → Option (CharSet × List Char)
  | ':' :: cs =>
    let negated := cs.head? = some '^'
    let cs := if negated then cs.tail else cs
    match cs.dropWhile (· ≠ ':') with
    | ':' :: ']' :: rest =>
      if classNames.contains (String.ofList (cs.takeWhile (· ≠ ':'))) then
        some (.named negated, rest)
      else none
    | _ => none
  | _ => none

/-- An open bracket: the set in front of a doubled mark, if there was one, and the members since
then, the latest first. -/
structure Bracket where
  negated : Bool
  left : Option CharSet := none
  members : List CharSet := []

namespace Bracket

def add (b : Bracket) (s : CharSet) : Bracket := { b with members := s :: b.members }

def content (b : Bracket) : CharSet :=
  let right := CharSet.ofMembers b.members.reverse
  match b.left with
  | none => right
  | some left => .combine left right

def combine (b : Bracket) : Bracket := { b with left := some b.content, members := [] }

def closed (b : Bracket) : CharSet := .bracket b.negated b.content

def dashes (spaced : Bool) : Nat → Bracket → List Char → Bracket × List Char
  | 0, b, cs => (b, cs)
  | fuel + 1, b, cs =>
    match skip spaced cs with
    | '-' :: rest => dashes spaced fuel (b.add (.char '-')) rest
    | rest => (b, rest)

/-- Reads the start of a set from behind its opening bracket. A closing bracket that comes first
stands for itself. -/
def start (spaced : Bool) (fuel : Nat) (cs : List Char) : Bracket × List Char :=
  let (b, cs) : Bracket × List Char := match skip spaced cs with
    | '^' :: rest => ({ negated := true }, rest)
    | rest => ({ negated := false }, rest)
  match dashes spaced fuel b cs with
  | (b, ']' :: rest) => if b.members.isEmpty then (b.add (.char ']'), rest) else (b, ']' :: rest)
  | (b, rest) => (b, rest)

end Bracket

/-- Reads a member: a range, if a dash follows that does not stand for itself. -/
def member? (spaced : Bool) (cs : List Char) : Option (CharSet × List Char) := do
  let (low, rest) ← Atom.read? spaced cs
  let rest := skip spaced rest
  let last := fun (s : CharSet) => some (s, rest)
  match rest with
  | [] => none
  | c :: after =>
    let next := peek? spaced after
    if c = '-' ∧ next ≠ some ']' ∧ next ≠ some '-' then
      match low, Atom.read? spaced (skip spaced after) with
      | .char low _, some (.char high _, rest) =>
        if low ≤ high then some (.range low high, rest) else none
      | _, _ => none
    else
      match low with
      | .char c _ => last (.char c)
      | .kind negated => last (.kind negated)
      | .edge _ => none

def bracketRest? (spaced : Bool) :
    Nat → Bracket → List Bracket → List Char → Option (Bracket × List Char)
  | 0, _, _, _ => none
  | fuel + 1, b, outer, cs =>
    match skip spaced cs with
    | [] => none
    | '[' :: rest =>
      match namedClass? rest with
      | some (s, rest) => bracketRest? spaced fuel (b.add s) outer rest
      | none =>
        let (inner, rest) := Bracket.start spaced fuel rest
        bracketRest? spaced fuel inner (b :: outer) rest
    | ']' :: rest =>
      match outer with
      | [] => some (b, rest)
      | o :: outer => bracketRest? spaced fuel (o.add b.closed) outer rest
    | '&' :: '&' :: rest => bracketRest? spaced fuel b.combine outer rest
    | '-' :: '-' :: rest => bracketRest? spaced fuel b.combine outer rest
    | '~' :: '~' :: rest => bracketRest? spaced fuel b.combine outer rest
    | cs =>
      match member? spaced cs with
      | none => none
      | some (s, rest) => bracketRest? spaced fuel (b.add s) outer rest

def brackets? (spaced : Bool) (fuel : Nat) (cs : List Char) : Option (Pattern × List Char) :=
  let (b, rest) := Bracket.start spaced fuel cs
  (bracketRest? spaced fuel b [] rest).map fun (b, rest) => (.set b.negated b.content, rest)

end Provision.Pattern
