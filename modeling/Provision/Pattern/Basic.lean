import Provision.Pattern.Flags

/-!
Regular expressions, and which of them can be run. They run on texts in UTF-8, on which a part must
not stop inside a character, and without tables of scripts, so neither kinds of characters, nor
letters in either case, nor edges of words are known beyond ASCII.
-/

set_option autoImplicit false

namespace Provision

inductive CharSet where
  | nothing
  | char (c : Char)
  | range (low high : Char)
  | kind (negated : Bool)
  | named (negated : Bool)
  | bracket (negated : Bool) (s : CharSet)
  | union (ss : List CharSet)
  | combine (a b : CharSet)

namespace CharSet

def ofMembers : List CharSet → CharSet
  | [] => .nothing
  | [s] => s
  | ss => .union ss

mutual

def depth : CharSet → Nat
  | .bracket _ s => s.depth + 1
  | .union ss => depthOfMembers ss + 1
  | .combine a b => max a.depth b.depth + 1
  | _ => 0

def depthOfMembers : List CharSet → Nat
  | [] => 0
  | s :: ss => max s.depth (depthOfMembers ss)

end

/-- A character that can be found: in either case, and as a byte, only if it is an ASCII one. -/
def isPlain (f : Pattern.Flags) (c : Char) : Bool := !f.folds && (f.unicode || c.toNat < 0x80)

mutual

/-- The set is known under some flags. Without `unicode` it is one of bytes, and all others than
ASCII ones are no characters. -/
def isKnown (f : Pattern.Flags) : CharSet → Bool
  | .nothing => true
  | .char c => isPlain f c
  | .range low high => isPlain f low && isPlain f high
  | .kind negated => !f.unicode && !negated
  | .named negated => !f.folds && (f.unicode || !negated)
  | .bracket negated s => (f.unicode || !negated) && s.isKnown f
  | .union ss => areKnown f ss
  | .combine a b => a.isKnown f && b.isKnown f

def areKnown (f : Pattern.Flags) : List CharSet → Bool
  | [] => true
  | s :: ss => s.isKnown f && areKnown f ss

end

end CharSet

inductive Pattern where
  | empty
  | char (c : Char) (byte : Bool)
  | any
  | edge (word : Bool)
  | kind (negated : Bool)
  | set (negated : Bool) (s : CharSet)
  | flags (c : Pattern.Change)
  | repeated (p : Pattern)
  | group (c : Pattern.Change) (p : Pattern)
  | sequence (ps : List Pattern)
  | choice (ps : List Pattern)

namespace Pattern

def ofParts : List Pattern → Pattern
  | [] => .empty
  | [p] => p
  | ps => .sequence ps

mutual

def depth : Pattern → Nat
  | .set _ s => s.depth + 1
  | .repeated p => p.depth + 1
  | .group _ p => p.depth + 1
  | .sequence ps => depthOfParts ps + 1
  | .choice ps => depthOfParts ps + 1
  | _ => 0

def depthOfParts : List Pattern → Nat
  | [] => 0
  | p :: ps => max p.depth (depthOfParts ps)

end

mutual

/-- The flags behind an expression, if it can be run with those in front of it. A group ends with
the flags that it started with. -/
def flagsAfter? (f : Flags) : Pattern → Option Flags
  | .empty => some f
  | .char c byte =>
    if f.folds || (!f.unicode && byte && 0x80 ≤ c.toNat) then none else some f
  | .any => if f.unicode then some f else none
  | .edge word => if word && f.unicode then none else some f
  | .kind negated => if f.unicode || negated then none else some f
  | .set negated s => if (CharSet.bracket negated s).isKnown f then some f else none
  | .flags c => some (f.change c)
  | .repeated p => p.flagsAfter? f
  | .group c p => (p.flagsAfter? (f.change c)).map fun _ => f
  | .sequence ps => flagsAfterParts? f ps
  | .choice ps => flagsAfterParts? f ps

def flagsAfterParts? (f : Flags) : List Pattern → Option Flags
  | [] => some f
  | p :: ps =>
    match p.flagsAfter? f with
    | none => none
    | some g => flagsAfterParts? g ps

end

def maxDepth : Nat := 250

def isRunnable (p : Pattern) : Bool := p.depth ≤ maxDepth && (p.flagsAfter? {}).isSome

end Pattern
end Provision
