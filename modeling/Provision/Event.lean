import Provision.Json.Basic

set_option autoImplicit false

namespace Provision

inductive Level where
  | error
  | warn
  | info
  | debug
  | trace
deriving DecidableEq, Repr

namespace Level

def rank : Level → Nat
  | .error => 0
  | .warn => 1
  | .info => 2
  | .debug => 3
  | .trace => 4

def text : Level → String
  | .error => "ERROR"
  | .warn => "WARN"
  | .info => "INFO"
  | .debug => "DEBUG"
  | .trace => "TRACE"

end Level

/-- A log event. One that is `timed` also reports how long something took. -/
structure Event where
  level : Level
  target : String
  message : String
  fields : List (String × Json)
  timed : Bool := false

namespace Event

def field (name value : String) : String × Json := (name, .str value)

def count (name : String) (n : Int) : String × Json := (name, .ofInt n)

def debug (target message : String) (fields : List (String × Json)) : Event :=
  { level := .debug, target := target, message := message, fields := fields }

def info (target message : String) (fields : List (String × Json)) : Event :=
  { level := .info, target := target, message := message, fields := fields }

def warn (target message : String) (fields : List (String × Json)) : Event :=
  { level := .warn, target := target, message := message, fields := fields }

def lasting (e : Event) : Event := { e with timed := true }

def names (e : Event) : List String :=
  "message" :: e.fields.map Prod.fst ++ if e.timed then ["duration_ms"] else []

/-- The message stands among the fields; durations are left out. -/
def document (e : Event) : Json :=
  .ofMembers [("level", .str e.level.text),
    ("fields", .ofMembers (("message", .str e.message) :: e.fields))]

end Event
end Provision
