import Provision.Event
import Provision.Json.Path

set_option autoImplicit false

namespace Provision.CommandLine

/-- The least severe level that is let through; `none` lets nothing through. -/
abbrev Threshold := Option Level

namespace Threshold

def names : List (String × Threshold) := [
  ("off", none),
  ("error", some .error),
  ("warn", some .warn),
  ("info", some .info),
  ("debug", some .debug),
  ("trace", some .trace)]

def ofText? (s : String) : Option Threshold :=
  match Json.natural64? s with
  | some n => (names[n]?).map Prod.snd
  | none => names.lookup (String.ofList (s.toList.map Char.toLower))

def admits (t : Threshold) (l : Level) : Bool :=
  match t with
  | none => false
  | some limit => l.rank ≤ limit.rank

end Threshold

end Provision.CommandLine
