import Provision.Kind.Basic
import Provision.Terraform.Runner

/-!
The lifecycle of one resource in one manifest directory: init, create, output, destroy. A service
keeps its place in the lifecycle, the directory of the latest init, and the arguments of the latest
create, with which it can destroy what it created.
-/

set_option autoImplicit false

namespace Provision

open Terraform (Context Session)

inductive Phase where
  | uninitialized
  | initialized
  | created
  | destroyed
deriving DecidableEq, Repr, Inhabited

namespace Phase

def text : Phase → String
  | .uninitialized => "uninitialized"
  | .initialized => "initialized"
  | .created => "created"
  | .destroyed => "destroyed"

def title : Phase → String
  | .uninitialized => "Uninitialized"
  | .initialized => "Initialized"
  | .created => "Created"
  | .destroyed => "Destroyed"

end Phase

/-- One resource of a kind. `applied` says that outputs may be read. -/
structure Service (Args Output : Type) where
  kind : ResourceKind Args Output
  settings : Settings
  context : Context
  dir : Option Path := none
  phase : Phase := .uninitialized
  applied : Bool := false
  remembered : Option Args := none

namespace Service

variable {Args Output : Type}

def new (kind : ResourceKind Args Output) (settings : Settings) : Service Args Output :=
  { kind := kind, settings := settings, context := settings.context }

def withContext (s : Service Args Output) (c : Context) : Service Args Output :=
  { s with context := c }

def serviceTarget : String := "tf_harness::service"

def event (s : Service Args Output) (level : Level) (message : String)
    (fields : List (String × Json)) : Event :=
  { level := level
    target := serviceTarget
    message := message
    fields := Event.field "kind" s.kind.name :: fields }

abbrev Outcome (Args Output α : Type) := Except Failure α × Service Args Output

/-- Prepares a directory, the kind's own if none is given. Until that succeeds the service has no
directory and takes no other step. -/
def init (s : Service Args Output) (dir? : Option Path) : Session (Outcome Args Output Unit) := do
  let dir := dir?.getD (s.kind.defaultDir s.settings)
  Session.log (s.event .info "initialising workspace" [Event.field "dir" dir.text])
  let s := { s with phase := .uninitialized, dir := none }
  let result ← Terraform.init dir s.context
  match result with
  | .ok _ => pure (.ok (), { s with dir := some dir, phase := .initialized })
  | .error e => pure (.error e, s)

/-- The directory of the latest init; the violation that a step commits without one. -/
def initializedDir (s : Service Args Output) (step : String) : Except Failure Path :=
  match s.phase, s.dir with
  | .uninitialized, _ | _, none =>
    .error (.contractViolation (s.kind.name ++ " " ++ step ++ " called before a successful init"))
  | _, some dir => .ok dir

def varsOf (s : Service Args Output) (args : Args) (extra : List String) :
    Except Failure (List String) :=
  match s.kind.serialise args with
  | .ok record => Variables.combine record extra
  | .error reason => .error (.unserialised reason)

def rememberedVars (s : Service Args Output) (extra : List String) :
    Except Failure (List String) :=
  match s.remembered with
  | some args => s.varsOf args extra
  | none => .error (.contractViolation "no remembered creation arguments")

/-- Takes down how an apply ended. One that fails over a created resource loses the resource, so
that outputs of a failed apply are not read. -/
def finishCreate (s : Service Args Output) (applied : Except Failure Terraform.ProcessOutput) :
    Session (Outcome Args Output Unit) :=
  match applied with
  | .ok _ => do
    Session.log (s.event .debug "resource created" [])
    pure (.ok (), { s with applied := true, phase := .created })
  | .error e => do
    let s :=
      if s.phase = .created then { s with phase := .initialized, applied := false } else s
    Session.log (s.event .warn "create failed" [Event.field "state" s.phase.text])
    pure (.error e, s)

/-- Stamps and remembers the arguments, encodes them, and applies the manifest with `apply`. The
arguments are remembered even if they cannot be encoded. -/
def createWith (s : Service Args Output) (args : Args) (extra : List String)
    (apply : Path → List String → Session (Except Failure Terraform.ProcessOutput)) :
    Session (Outcome Args Output Unit) :=
  match s.initializedDir "create" with
  | .error e => pure (.error e, s)
  | .ok dir => do
    let s := { s with remembered := some (s.kind.stamp s.settings.gatewayUrl args) }
    Session.log (s.event .info "creating resource" [Event.field "dir" dir.text])
    match s.rememberedVars extra with
    | .error e => pure (.error e, s)
    | .ok vars => do
      let applied ← apply dir vars
      s.finishCreate applied

def create (s : Service Args Output) (args : Args) (extra : List String) :
    Session (Outcome Args Output Unit) :=
  s.createWith args extra fun dir vars => Terraform.apply dir vars s.context

def createWithFiles (s : Service Args Output) (args : Args) (files : List Path) :
    Session (Outcome Args Output Unit) :=
  s.createWith args [] fun dir vars => Terraform.applyWithFiles dir vars files s.context

def output (s : Service Args Output) : Session (Outcome Args Output Output) :=
  match s.initializedDir "output" with
  | .error e => pure (.error e, s)
  | .ok dir =>
    if !s.applied then
      pure (.error (.contractViolation
        (s.kind.name ++ " output requested before any successful create")), s)
    else do
      let result ← Terraform.output dir s.context
      match result with
      | .error e => pure (.error e, s)
      | .ok outputs => do
        Session.log (s.event .debug "read outputs"
          [Event.field "names" (Text.quotedList outputs.names)])
        pure (.ok (s.kind.project outputs), s)

def destroy (s : Service Args Output) (args? : Option Args) : Session (Outcome Args Output Unit) :=
  match args?.or s.remembered with
  | none => pure (.error (.contractViolation
      "got unset destroy args, set it in object or pass as a parameter"), s)
  | some args =>
    match s.initializedDir "destroy" with
    | .error e => pure (.error e, s)
    | .ok dir =>
      match s.varsOf (s.kind.stamp s.settings.gatewayUrl args) [] with
      | .error e => pure (.error e, s)
      | .ok vars => do
        Session.log (s.event .info "destroying resource" [Event.field "dir" dir.text])
        let result ← Terraform.destroy dir vars s.context
        match result with
        | .error e => pure (.error e, s)
        | .ok _ => pure (.ok (), { s with phase := .destroyed })

def display (s : Service Args Output) : String :=
  let dir := match s.dir with
    | some d => "Some(" ++ d.quoted ++ ")"
    | none => "None"
  "ResourceService \x7b kind: " ++ Text.quoted s.kind.name ++ ", manifest_dir: " ++ dir ++
    ", state: " ++ s.phase.title ++ ", applied: " ++ toString s.applied ++ ", .. \x7d"

end Service
end Provision
