import Provision.Path

set_option autoImplicit false

namespace Provision.Terraform

inductive Subcommand where
  | init
  | apply
  | destroy
  | output
  | «show»
deriving DecidableEq, Repr, Inhabited

namespace Subcommand

def name : Subcommand → String
  | .init => "init"
  | .apply => "apply"
  | .destroy => "destroy"
  | .output => "output"
  | .show => "show"

def all : List Subcommand := [.init, .apply, .destroy, .output, .show]

def ofName? (s : String) : Option Subcommand := all.find? fun c => c.name == s

end Subcommand

structure Invocation where
  subcommand : Subcommand
  workspace : Path
  args : List String
deriving DecidableEq

/-- The limits that one invocation is under: a time limit in milliseconds, and whether its caller
has already given it up. -/
structure Context where
  limit : Option Nat
  cancelled : Bool
deriving DecidableEq

/-- A completed process. The exit code is -1 when a signal ended it. -/
structure ProcessOutput where
  subcommand : Subcommand
  exitCode : Int
  stdout : String
  stderr : String
deriving DecidableEq

namespace ProcessOutput

def success (o : ProcessOutput) : Bool := o.exitCode == 0

/-- The first stream, then the second; a new line divides them only where both hold text and the
first does not end in one. -/
def combine (out err : String) : String :=
  if out.toList = [] then err
  else if err.toList = [] then out
  else if out.toList.getLast? = some '\n' then out ++ err
  else out ++ "\n" ++ err

def combined (o : ProcessOutput) : String := combine o.stdout o.stderr

def ok (subcommand : Subcommand) (stdout : String) : ProcessOutput := ⟨subcommand, 0, stdout, ""⟩

end ProcessOutput

/-- Why an invocation did not run to completion. -/
inductive Interruption where
  | execution (subcommand : Subcommand) (workspace : Path) (reason : String)
  | timeout (subcommand : Subcommand) (workspace : Path) (seconds : Nat)
  | cancelled (subcommand : Subcommand) (workspace : Path)
deriving DecidableEq

abbrev Reply := Except Interruption ProcessOutput

end Provision.Terraform
