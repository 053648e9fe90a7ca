import Provision.Failure
import Provision.Outputs
import Provision.StateDocument
import Provision.Terraform.Session
import Provision.Variables

/-!
The steps of terraform. A completed process with a non-zero exit code is the step's own failure and
carries both of its streams; nothing is retried.
-/

set_option autoImplicit false

namespace Provision.Terraform

def runnerTarget : String := "tf_harness::runner"

def display : String := "Terraform \x7b .. \x7d"

def run (sub : Subcommand) (ws : Path) (args : List String) (c : Context) : Session Reply := do
  Session.log (.info runnerTarget "running terraform"
    [Event.field "subcommand" sub.name, Event.field "workspace" ws.text])
  let reply ← Session.execute ⟨sub, ws, args⟩ c
  match reply with
  | .ok out =>
    if out.success then pure reply
    else do
      Session.log (.warn runnerTarget "terraform exited non-zero"
        [Event.field "subcommand" sub.name, Event.field "workspace" ws.text,
          Event.count "exit_code" out.exitCode])
      pure reply
  | .error _ => pure reply

def completed (failed : String → Failure) : Reply → Except Failure ProcessOutput
  | .error i => .error (.interrupted i)
  | .ok out => if out.success then .ok out else .error (failed out.combined)

def initArgs : List String := ["-no-color", "-input=false"]

def mutatingArgs (vars : List String) : List String :=
  ["-auto-approve", "-no-color", "-input=false"] ++ vars

def queryArgs : List String := ["-json", "-no-color"]

def init (ws : Path) (c : Context) : Session (Except Failure ProcessOutput) := do
  let reply ← run .init ws initArgs c
  pure (completed (.init ws) reply)

def apply (ws : Path) (vars : List String) (c : Context) :
    Session (Except Failure ProcessOutput) := do
  let reply ← run .apply ws (mutatingArgs vars) c
  pure (completed (.apply ws) reply)

def applyWithFiles (ws : Path) (vars : List String) (files : List Path) (c : Context) :
    Session (Except Failure ProcessOutput) :=
  apply ws (vars ++ Variables.encodeFiles files) c

def destroy (ws : Path) (vars : List String) (c : Context) :
    Session (Except Failure ProcessOutput) := do
  let reply ← run .destroy ws (mutatingArgs vars) c
  pure (completed (.destroy ws) reply)

/-- The outputs in a reply. What is no document is complained about with `say`. -/
def outputsOf (say : Wording) (ws : Path) (reply : Reply) : Except Failure Outputs :=
  match completed (.output .output ws) reply with
  | .error e => .error e
  | .ok out =>
    match Outputs.parse? out.stdout with
    | some o => .ok o
    | none => .error (.output .output ws ("unparsable output JSON: " ++ say out.stdout))

def output (ws : Path) (c : Context) : Session (Except Failure Outputs) := do
  let reply ← run .output ws queryArgs c
  let say ← Session.wording .output
  pure (outputsOf say ws reply)

def stateOf (say : Wording) (ws : Path) (reply : Reply) : Except Failure StateDocument :=
  match completed (.output .show ws) reply with
  | .error e => .error e
  | .ok out =>
    match StateDocument.parse? out.stdout with
    | some s => .ok s
    | none => .error (.output .show ws ("unparsable state JSON: " ++ say out.stdout))

def «show» (ws : Path) (c : Context) : Session (Except Failure StateDocument) := do
  let reply ← run .show ws queryArgs c
  let say ← Session.wording .show
  pure (stateOf say ws reply)

end Provision.Terraform
