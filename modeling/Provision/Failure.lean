import Provision.Reason
import Provision.Terraform.Invocation
import Provision.Text.Quoted

set_option autoImplicit false

namespace Provision

open Terraform (Subcommand Interruption)

/-- A failed step. Those that terraform itself reports carry its diagnostics as they are. -/
inductive Failure where
  | interrupted (i : Interruption)
  | init (workspace : Path) (diagnostics : String)
  | apply (workspace : Path) (diagnostics : String)
  | destroy (workspace : Path) (diagnostics : String)
  | output (subcommand : Subcommand) (workspace : Path) (diagnostics : String)
  | contractViolation (text : String)
  | encode (text : String)
  | config (text : String)
  | workspace (text : String)
  | io (text : String)
deriving DecidableEq

def Path.quoted (p : Path) : String := Text.quoted p.text

def Terraform.Interruption.message : Interruption → String
  | .execution sub ws reason =>
    "terraform " ++ sub.name ++ " could not run in " ++ ws.quoted ++ ": " ++ reason
  | .timeout sub ws seconds =>
    "terraform " ++ sub.name ++ " timed out after " ++ toString seconds ++ "s in " ++ ws.quoted
  | .cancelled sub ws => "terraform " ++ sub.name ++ " cancelled in " ++ ws.quoted

namespace Failure

def failedIn (sub : Subcommand) (ws : Path) : String :=
  "terraform " ++ sub.name ++ " failed in " ++ ws.quoted ++ ": "

def message : Failure → String
  | .interrupted i => i.message
  | .init ws d => failedIn .init ws ++ d
  | .apply ws d => failedIn .apply ws ++ d
  | .destroy ws d => failedIn .destroy ws ++ d
  | .output sub ws d => failedIn sub ws ++ d
  | .contractViolation t => "contract violation: " ++ t
  | .encode t => "cannot encode arguments: " ++ t
  | .config t => "invalid configuration: " ++ t
  | .workspace t => "workspace error: " ++ t
  | .io t => "IO error: " ++ t

def unserialised (reason : String) : Failure := .encode (Reason.normal reason)

def diagnostics : Failure → Option String
  | .init _ d => some d
  | .apply _ d => some d
  | .destroy _ d => some d
  | .output _ _ d => some d
  | _ => none

/-- The tool ran and reported the failure, or its answer could not be read. -/
def isToolFailure (f : Failure) : Bool := f.diagnostics.isSome

def kind : Failure → String
  | .interrupted (.execution ..) => "Execution"
  | .interrupted (.timeout ..) => "Timeout"
  | .interrupted (.cancelled ..) => "Cancelled"
  | .init .. => "Init"
  | .apply .. => "Apply"
  | .destroy .. => "Destroy"
  | .output .. => "Output"
  | .contractViolation _ => "ContractViolation"
  | .encode _ => "Encode"
  | .config _ => "Config"
  | .workspace _ => "Workspace"
  | .io _ => "Io"

end Failure
end Provision
