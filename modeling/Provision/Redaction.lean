set_option autoImplicit false

namespace Provision.Redaction

/-- Variables whose values must not be logged. -/
def secretNames : List String := ["token", "password", "client_secret", "htpasswd_users"]

def mask : String := "***"

def nameOf? (flag : String) : Option String :=
  if '=' ∈ flag.toList then some (String.ofList (flag.toList.takeWhile (· ≠ '='))) else none

/-- A flag that sets a secret variable keeps only its name. -/
def redactFlag (flag : String) : String :=
  match nameOf? flag with
  | some name => if name ∈ secretNames then name ++ "=" ++ mask else flag
  | none => flag

def redact (flags : List String) : List String := flags.map redactFlag

end Provision.Redaction
