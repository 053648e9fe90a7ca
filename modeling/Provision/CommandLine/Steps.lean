import Provision.CommandLine.Arguments
import Provision.CommandLine.Report
import Provision.FileTree
import Provision.Kind.CloudProviders
import Provision.Kind.Cluster
import Provision.Kind.IdentityProvider
import Provision.Kind.MachinePool
import Provision.Lifecycle

set_option autoImplicit false

namespace Provision.CommandLine

open Terraform (Context Session)

def commandTarget : String := "rhcs_e2e"

/-- What a step is under. The text of a file is `fileAt` its path; one that holds no record is
complained about with `say`. -/
structure Surroundings where
  settings : Settings
  context : Context
  fileAt : Path → Except Fault String
  say : Wording

abbrev StepResult := Except Report (Option Json)

def failing (headline : String) (f : Failure) : StepResult := .error ⟨headline, some f.message⟩

def loadArgs {Args : Type} [Decode Args] (x : Surroundings) :
    Option Path → Except Report (Option Args)
  | none => .ok none
  | some p =>
    match x.fileAt p with
    | .error e => .error ⟨"Failed to read arguments from " ++ p.quoted, some e.message⟩
    | .ok raw =>
      match (Json.readWritten raw).bind decode with
      | some args => .ok (some args)
      | none => .error ⟨"Invalid argument record in " ++ p.quoted, some (x.say raw)⟩

variable {Args Output : Type}

def Surroundings.service (x : Surroundings) (kind : ResourceKind Args Output) :
    Service Args Output :=
  (Service.new kind x.settings).withContext x.context

def runInit (x : Surroundings) (kind : ResourceKind Args Output) (dir : Path) :
    Session StepResult := do
  let (done, _) ← (x.service kind).init (some dir)
  match done with
  | .error e => pure (failing ("Failed to initialise " ++ kind.name) e)
  | .ok _ => do
    Session.log (.info commandTarget "initialised"
      [Event.field "kind" kind.name, Event.field "dir" dir.text])
    pure (.ok none)

def runApply [Encode Output] (x : Surroundings) (kind : ResourceKind Args Output) (dir : Path)
    (args : Args) (extra : List String) : Session StepResult := do
  let (done, s) ← (x.service kind).init (some dir)
  match done with
  | .error e => pure (failing ("Failed to initialise " ++ kind.name) e)
  | .ok _ => do
    let (done, s) ← s.create args extra
    match done with
    | .error e => pure (failing ("Failed to apply " ++ kind.name) e)
    | .ok _ => do
      let (done, _) ← s.output
      match done with
      | .error e => pure (failing ("Failed to read " ++ kind.name ++ " outputs") e)
      | .ok o => pure (.ok (some (encode o)))

def runOutput [Encode Output] (x : Surroundings) (kind : ResourceKind Args Output) (dir : Path) :
    Session StepResult := do
  let result ← Terraform.output dir x.context
  match result with
  | .error e => pure (failing ("Failed to read " ++ kind.name ++ " outputs") e)
  | .ok o => pure (.ok (some (encode (kind.project o))))

def runDestroy (x : Surroundings) (kind : ResourceKind Args Output) (dir : Path)
    (args : Option Args) : Session StepResult := do
  let (done, s) ← (x.service kind).init (some dir)
  match done with
  | .error e => pure (failing ("Failed to initialise " ++ kind.name) e)
  | .ok _ => do
    let (done, _) ← s.destroy args
    match done with
    | .error e => pure (failing ("Failed to destroy " ++ kind.name) e)
    | .ok _ => do
      Session.log (.info commandTarget "destroyed" [Event.field "kind" kind.name])
      pure (.ok none)

/-- The whole state, or the values of the resource at an address: a type, a point and a name. -/
def select (s : StateDocument) : Option String → StepResult
  | none => .ok (some s.document)
  | some address =>
    match Text.splitOnce? '.' address.toList with
    | none => .error { headline := "Resource must be TYPE.NAME, got " ++ Text.quoted address }
    | some (typeName, name) =>
      match s.resource? (String.ofList typeName) (String.ofList name) with
      | none => .error { headline := "Resource " ++ address ++ " not found in state" }
      | some values => .ok (some values)

def runShow (x : Surroundings) (kind : ResourceKind Args Output) (dir : Path)
    (resource : Option String) : Session StepResult := do
  let result ← Terraform.show dir x.context
  match result with
  | .error e => pure (failing ("Failed to read " ++ kind.name ++ " state") e)
  | .ok s => pure (select s resource)

/-- Runs a step for a kind, in a given directory or in the kind's own. Without a file an apply takes
the record with every field unset, which leaves the manifest's own defaults in charge. -/
def Step.run [Record Args] [Encode Output] (x : Surroundings) (kind : ResourceKind Args Output)
    (dir? : Option Path) (step : Step) : Session StepResult :=
  let dir := dir?.getD (kind.defaultDir x.settings)
  match step with
  | .init => runInit x kind dir
  | .apply file varFiles extra =>
    match loadArgs x file with
    | .error r => pure (.error r)
    | .ok args =>
      runApply x kind dir (args.getD Record.empty) (extra ++ Variables.encodeFiles varFiles)
  | .output => runOutput x kind dir
  | .destroy file =>
    match loadArgs x file with
    | .error r => pure (.error r)
    | .ok args => runDestroy x kind dir args
  | .show resource => runShow x kind dir resource

def Command.session (c : Command) (x : Surroundings) : Session StepResult :=
  match c.kind with
  | .cluster => c.step.run x .cluster c.dir
  | .machinePool => c.step.run x .machinePool c.dir
  | .identityProvider t => c.step.run x (.identityProvider t) c.dir
  | .cloudProviders => c.step.run x .cloudProviders c.dir

end Provision.CommandLine
