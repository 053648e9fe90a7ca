import Provision.Json.Path

/-!
Reasons why a record has no document. A reason may end in a position, which is a line and a column.
Positions are written in one way, so zeros in front of a number are dropped; a position in line zero
is none.
-/

set_option autoImplicit false

namespace Provision.Reason

structure Position where
  line : Nat
  column : Nat
deriving DecidableEq

def lineMark : String := " at line "

def columnMark : String := " column "

def splitLast? (mark : List Char) : List Char → Option (List Char × List Char)
  | [] => none
  | c :: cs =>
    match splitLast? mark cs with
    | some (before, after) => some (c :: before, after)
    | none =>
      if mark.isPrefixOf (c :: cs) then some ([], (c :: cs).drop mark.length) else none

def number? (ds : List Char) : Option Nat := Json.natural64? (String.ofList ds)

def position? (cs : List Char) : Option Position :=
  let rest := cs.dropWhile Char.isDigit
  if columnMark.toList.isPrefixOf rest then
    let column := rest.drop columnMark.length
    if column.all Char.isDigit then
      match number? (cs.takeWhile Char.isDigit), number? column with
      | some l, some c => some ⟨l, c⟩
      | _, _ => none
    else none
  else none

def Position.text (p : Position) : String :=
  if p.line = 0 then ""
  else lineMark ++ toString p.line ++ columnMark ++ toString p.column

/-- A reason whose position, if it has one, is written in the usual way. -/
def normal (s : String) : String :=
  match splitLast? lineMark.toList s.toList with
  | none => s
  | some (before, after) =>
    match position? after with
    | none => s
    | some p => String.ofList before ++ p.text

end Provision.Reason
