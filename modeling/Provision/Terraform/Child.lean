import Provision.Failure
import Provision.Machine
import Provision.Redaction
import Provision.Terraform.Session
import Provision.Text.Quoted
import Provision.Text.Utf8

/-!
The executor that runs terraform as a child process. The child takes no input, and secrets are
masked before its flags are logged.
-/

set_option autoImplicit false

namespace Provision.Terraform

open Machine (Work Command Ending)

/-- A terraform binary, and variables for its children; later ones win. -/
structure Child where
  binary : Path
  environment : List (String × String) := []

namespace Child

def childTarget : String := "tf_harness::runner"

def automation : List (String × String) := [("TF_IN_AUTOMATION", "1"), ("TF_INPUT", "0")]

def command (x : Child) (i : Invocation) (c : Context) : Command where
  program := x.binary
  args := i.subcommand.name :: i.args
  directory := some i.workspace
  environment := automation ++ x.environment
  context := c

def limitSeconds (c : Context) : Nat := (c.limit.getD 0) / 1000

def finish (i : Invocation) (c : Context) : Ending → Work Reply
  | .cancelled => do
    Work.log (.warn childTarget "terraform cancelled"
      [Event.field "subcommand" i.subcommand.name, Event.field "workspace" i.workspace.text])
    pure (.error (.cancelled i.subcommand i.workspace))
  | .timedOut => do
    Work.log (.warn childTarget "terraform timed out"
      [Event.field "subcommand" i.subcommand.name, Event.field "workspace" i.workspace.text,
        Event.count "limit_secs" (limitSeconds c)])
    pure (.error (.timeout i.subcommand i.workspace (limitSeconds c)))
  | .lost e =>
    pure (.error (.execution i.subcommand i.workspace ("failed to collect output: " ++ e.message)))
  | .exited code out err => do
    Work.log (Event.debug childTarget "terraform exited"
      [Event.field "subcommand" i.subcommand.name,
        Event.count "exit_code" (code.getD (-1))]).lasting
    pure (.ok ⟨i.subcommand, code.getD (-1), Text.decode out, Text.decode err⟩)

/-- Runs an invocation in its directory, which has to exist. -/
def execute (x : Child) (i : Invocation) (c : Context) : Work Reply := do
  let there ← Work.isDirectory i.workspace
  if there then do
    Work.log (.debug childTarget "spawning terraform"
      [Event.field "binary" x.binary.text, Event.field "subcommand" i.subcommand.name,
        Event.field "args" (Text.quotedList (Redaction.redact i.args))])
    let started ← Work.spawn (x.command i c)
    match started with
    | .error e =>
      pure (.error (.execution i.subcommand i.workspace
        ("failed to start " ++ x.binary.text ++ ": " ++ e.message)))
    | .ok ending => finish i c ending
  else
    pure (.error (.execution i.subcommand i.workspace "workspace is not a directory"))

def answer (x : Child) : (q : Request) → Work q.Answer
  | .log e => Work.log e
  | .execute i c => x.execute i c
  | .wording sub => Work.wording sub.name

def drive {α : Type} (x : Child) (d : Session α) : Work α := Dialogue.within x.answer d

def displayVariable (v : String × String) : String :=
  "(" ++ Text.quoted v.1 ++ ", " ++ Text.quoted v.2 ++ ")"

def display (x : Child) : String :=
  "TerraformCli \x7b binary: " ++ x.binary.quoted ++ ", env: [" ++
    String.intercalate ", " (x.environment.map displayVariable) ++ "] \x7d"

end Child
end Provision.Terraform
