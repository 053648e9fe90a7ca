import Provision.ClusterLogin
import Provision.Lifecycle
import Provision.Management.Client

set_option autoImplicit false

namespace Provision

open Machine (Work)
open Terraform (Context Session)

structure Scenario where
  settings : Settings
  context : Context
deriving DecidableEq

namespace Scenario

def new (s : Settings) : Scenario := ⟨s, s.context⟩

def withContext (s : Scenario) (c : Context) : Scenario := { s with context := c }

def ofLookup (lookup : String → Option String) : Except ScenarioFailure Scenario :=
  match Settings.ofLookup lookup with
  | .ok s => .ok (new s)
  | .error e => .error (.harness e)

def token (s : Scenario) : String := s.settings.token.getD ""

def client (s : Scenario) : Management.Client := .ofSettings s.settings

def service {Args Output : Type} (s : Scenario) (kind : ResourceKind Args Output) :
    Service Args Output :=
  (Service.new kind s.settings).withContext s.context

def started {Args Output : Type} (s : Scenario) (kind : ResourceKind Args Output)
    (dir? : Option Path) : Session (Service.Outcome Args Output Unit) :=
  (s.service kind).init dir?

def loginTo (s : Scenario) (server clusterId username password : String) : ClusterLogin :=
  { server := server, username := username, password := password, clusterId := clusterId
    kubeconfigDir := s.settings.kubeconfigDir }

def lookupFailed (clusterId username : String) (status : Nat) (body : String) :
    ScenarioFailure :=
  .login "" username
    ("cluster " ++ clusterId ++ " lookup returned " ++ toString status ++ ": " ++ body)

def login (s : Scenario) (clusterId username password : String) :
    Work (Except ScenarioFailure String) := do
  let found ← s.client.retrieveCluster clusterId
  match found with
  | .error e => pure (.error e)
  | .ok a =>
    match a.body with
    | some cluster =>
      if a.success then
        (s.loginTo cluster.api.url clusterId username password).run
          s.settings.ocBinary s.context
      else pure (.error (lookupFailed clusterId username a.status a.errorBody))
    | none => pure (.error (lookupFailed clusterId username a.status a.errorBody))

end Scenario
end Provision
