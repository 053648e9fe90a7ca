import Provision.CommandLine.LogFilter
import Provision.CommandLine.Steps
import Provision.Terraform.Child

set_option autoImplicit false

namespace Provision.CommandLine

open Machine (Work)

structure Start where
  arguments : List String
  lookup : String → Option String
  fileAt : Path → Except Fault String

structure Exit where
  code : Nat
  stdout : String := ""
  stderr : String := ""
deriving DecidableEq

def programName : String := "rhcs-e2e"

def programVersion : String := "0.3.1"

def summary : String :=
  "Usage: " ++ programName ++
    " [--verbose] [--json] <init|apply|output|destroy|show> --kind <KIND>\n"

def Stop.exit : Stop → Exit
  | .version => { code := 0, stdout := programName ++ " " ++ programVersion ++ "\n" }
  | .help => { code := 0, stdout := summary }
  | .usage => { code := 2, stderr := summary }

def StepResult.exit : StepResult → Exit
  | .ok (some document) => { code := 0, stdout := document.pretty ++ "\n" }
  | .ok none => { code := 0 }
  | .error r => { code := 1, stderr := r.text }

/-- Runs a command with settings from the variables; terraform runs as a child process. -/
def Command.work (c : Command) (x : Start) : Work StepResult :=
  match Settings.ofLookup x.lookup with
  | .error e => pure (failing "Failed to read harness configuration" e)
  | .ok settings => do
    let say ← Work.wording "arguments"
    Terraform.Child.drive { binary := settings.terraformBinary }
      (c.session ⟨settings, settings.context, x.fileAt, say⟩)

def Start.run (x : Start) : Work Exit :=
  match Command.parse x.arguments with
  | .error s => pure s.exit
  | .ok c => do
    let result ← c.work x
    pure (StepResult.exit result)

def Start.logFilter (x : Start) : LogFilter :=
  match Command.parse x.arguments with
  | .ok c => .ofVariable (x.lookup "RUST_LOG") c.verbose
  | .error _ => ⟨[]⟩

end Provision.CommandLine
