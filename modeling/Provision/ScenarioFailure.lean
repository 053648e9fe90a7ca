import Provision.Failure

set_option autoImplicit false

namespace Provision

/-- The network and the reader of a response give reasons in their own words; `<json>` stands for one
that was not kept. -/
inductive ScenarioFailure where
  | harness (f : Failure)
  | transport (path reason : String)
  | decode (path : String) (reason : String := "<json>")
  | client (text : String)
  | login (server username reason : String)
deriving DecidableEq

namespace ScenarioFailure

def message : ScenarioFailure → String
  | .harness f => f.message
  | .transport path reason => "management API request to " ++ path ++ " failed: " ++ reason
  | .decode path reason => "unexpected management API response from " ++ path ++ ": " ++ reason
  | .client text => "management API client error: " ++ text
  | .login server username reason =>
    "oc login to " ++ server ++ " as " ++ username ++ " failed: " ++ reason

/-- Terraform's diagnostics, or the reason of a failed login. -/
def diagnostics : ScenarioFailure → Option String
  | .harness f => f.diagnostics
  | .login _ _ reason => some reason
  | _ => none

def kind : ScenarioFailure → String
  | .harness f => f.kind
  | .transport .. => "Transport"
  | .decode .. => "Decode"
  | .client _ => "Client"
  | .login .. => "Login"

end ScenarioFailure
end Provision
