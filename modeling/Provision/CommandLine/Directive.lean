import Provision.Binary64.Decimal
import Provision.CommandLine.Threshold
import Provision.Pattern.Reader
import Provision.Text.Bytes
import Provision.Text.Pieces

/-!
Directives about log events. A directive is a threshold, a target, or both with an equals sign
between them; behind the target may stand, in brackets, the name of a span and, in braces, a field
with or without a value.
-/

set_option autoImplicit false

namespace Provision.CommandLine

structure Scope where
  span : Option String := none
  field : Option String := none
  valued : Bool := false
deriving DecidableEq

structure Directive where
  target : Option String
  scope : Scope
  threshold : Threshold
deriving DecidableEq

/-- The text of a directive. Places are counted in bytes of the text without the blanks at its ends,
but parts are cut out of the whole text, so a blank in front shifts them. -/
structure DirectiveText where
  whole : List Char
  trimmed : List Char

namespace DirectiveText

def ofList (cs : List Char) : DirectiveText := ⟨cs, Text.trim cs⟩

def onward (x : DirectiveText) (a : Nat) : List Char :=
  ((Text.splitBytes? a x.trimmed).map Prod.snd).getD []

def rest? (x : DirectiveText) (a : Nat) : Option String :=
  (Text.splitBytes? a x.whole).map fun (_, rest) => String.ofList rest

def cut? (x : DirectiveText) (a b : Nat) : Option String := do
  let (_, rest) ← Text.splitBytes? a x.whole
  let (part, _) ← Text.splitBytes? (b - a) rest
  some (String.ofList part)

def next (x : DirectiveText) (a : Nat) (ends : Char → Bool) : Nat :=
  a + Text.size ((x.onward a).takeWhile fun c => !ends c)

def threshold? (x : DirectiveText) (a : Nat) : Option Threshold :=
  (x.rest? a).bind fun s => if s = "" then some (some .trace) else Threshold.ofText? s

def tail? (x : DirectiveText) (a : Nat) : Option Threshold :=
  match x.onward a with
  | [] => some (some .trace)
  | '=' :: _ => x.threshold? (a + 1)
  | _ => none

def isValue (s : String) : Bool :=
  s = "true" || s = "false" || (Binary64.read s).isSome || Pattern.isWellFormed s.toList

/-- A field, which may not be empty, of a span. What stands behind a second equals sign is ignored.
-/
def field? (span : Option String) (s : String) : Option Scope :=
  if s = "" then none
  else
    match (Text.pieces '=' s.toList).map String.ofList with
    | name :: value :: _ => if isValue value then some ⟨span, some name, true⟩ else none
    | _ => some ⟨span, some s, false⟩

/-- The brackets behind a target, from behind the opening one on. -/
def scope? (x : DirectiveText) (target : Option String) (a : Nat) : Option Directive := do
  let b := x.next a fun c => c = ']' || c = '\x7b'
  match x.onward b with
  | ']' :: _ =>
    let span ← x.cut? a b
    let threshold ← x.tail? (b + 1)
    some ⟨target, { span := some span }, threshold⟩
  | _ :: _ =>
    let span ← x.cut? a b
    let c := x.next (b + 1) (· = '\x7d')
    match x.onward c with
    | _ :: ']' :: _ =>
      let field ← x.cut? (b + 1) c
      let scope ← field? (if span = "" then none else some span) field
      let threshold ← x.tail? (c + 2)
      some ⟨target, scope, threshold⟩
    | _ => none
  | [] => none

def startsTarget (c : Char) : Bool := Text.isAlphanumeric c || c = '-' || c = ':' || c = '_'

/-- A word alone is a threshold if it names one, and otherwise a target, which lets everything
through. -/
def word (s : String) : Directive :=
  match Threshold.ofText? s with
  | some t => ⟨none, {}, t⟩
  | none => ⟨some s, {}, some .trace⟩

def read (x : DirectiveText) : Option Directive :=
  match x.trimmed with
  | [] => none
  | '[' :: _ => x.scope? none 1
  | c :: _ =>
    if startsTarget c then
      let a := x.next 0 fun c => c = '=' || c = '['
      match x.onward a with
      | [] => (x.rest? 0).map word
      | '=' :: _ => do
        let target ← x.cut? 0 a
        let threshold ← x.threshold? (a + 1)
        some ⟨some target, {}, threshold⟩
      | _ => do
        let target ← x.cut? 0 a
        x.scope? (some target) (a + 1)
    else none

end DirectiveText

namespace Directive

/-- Nothing here happens inside a span, so a directive that asks for one, or for a value, which only
spans keep, decides about no event. -/
def isAboutEvents (d : Directive) : Bool := d.scope.span.isNone && !d.scope.valued

def covers (d : Directive) (e : Event) : Bool :=
  d.isAboutEvents && (d.target.all fun t => t.toList.isPrefixOf e.target.toList) &&
    d.scope.field.all fun f => e.names.contains f

def targetWeight (d : Directive) : Nat :=
  match d.target with
  | none => 0
  | some t => t.utf8ByteSize + 1

/-- The directive is less specific than another or just as specific: it has the shorter target, or
one as long and no field, or a field that comes earlier. -/
def yields (d e : Directive) : Bool :=
  if d.targetWeight ≠ e.targetWeight then d.targetWeight < e.targetWeight
  else
    match d.scope.field, e.scope.field with
    | none, _ => true
    | some _, none => false
    | some f, some g => f ≤ g

end Directive

end Provision.CommandLine
