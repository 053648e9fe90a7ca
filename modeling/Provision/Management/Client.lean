import Provision.Machine
import Provision.Management.Records
import Provision.ScenarioFailure

/-!
Read-only look-ups in the clusters management API. An answer of any status is a response; only a
request without an answer and a success with a body of the wrong form are failures.
-/

set_option autoImplicit false

namespace Provision.Management

open Machine (Work)

structure Client where
  baseUrl : String
  token : Option String
deriving DecidableEq

/-- A response: its body if it is a success, and otherwise the text of the body. -/
structure Answer (α : Type) where
  status : Nat
  body : Option α
  errorBody : String

namespace Answer

def success {α : Type} (a : Answer α) : Bool := 200 ≤ a.status && a.status < 300

end Answer

namespace Client

/-- Slashes at the end of the address are dropped. -/
def new (baseUrl : String) (token : Option String) : Client :=
  ⟨String.ofList (baseUrl.toList.reverse.dropWhile (· = '/')).reverse, token⟩

def ofSettings (s : Settings) : Client := new s.gatewayUrl s.token

def apiRoot : String := "/api/clusters_mgmt/v1"

def userAgent : String := "rhcs-e2e/0.3.1"

def clientTarget : String := "rhcs_e2e::cms"

def request (c : Client) (path : String) (query : List (String × String)) : Http.Request where
  address := c.baseUrl ++ path
  query := query
  bearer := c.token
  userAgent := userAgent

/-- What a response says. A body of the wrong form is complained about with `say`. -/
def interpret {α : Type} [Decode α] (say : Wording) (path : String) (r : Http.Response) :
    Except ScenarioFailure (Answer α) :=
  if r.success then
    match (Json.readWritten r.body).bind decode with
    | some v => .ok ⟨r.status, some v, ""⟩
    | none => .error (.decode path (say r.body))
  else .ok ⟨r.status, none, r.body⟩

def get {α : Type} [Decode α] (c : Client) (below : String) (query : List (String × String)) :
    Work (Except ScenarioFailure (Answer α)) := do
  let path := apiRoot ++ below
  let response ← Work.fetch (c.request path query)
  match response with
  | .error reason => pure (.error (.transport path reason))
  | .ok r => do
    Work.log (.debug clientTarget "management API response"
      [Event.field "path" path, Event.count "status" r.status])
    let say ← Work.wording path
    pure (interpret say path r)

def retrieveCluster (c : Client) (id : String) : Work (Except ScenarioFailure (Answer Cluster)) :=
  c.get ("/clusters/" ++ id) []

def idpPath (clusterId idpId : String) : String :=
  "/clusters/" ++ clusterId ++ "/identity_providers/" ++ idpId

def retrieveIdp (c : Client) (clusterId idpId : String) :
    Work (Except ScenarioFailure (Answer IdentityProvider)) :=
  c.get (idpPath clusterId idpId) []

def listPasswordUsers (c : Client) (clusterId idpId : String) :
    Work (Except ScenarioFailure (Answer (Page PasswordUser))) :=
  c.get (idpPath clusterId idpId ++ "/htpasswd_users") []

def listCloudProviders (c : Client) (search order : Option String) :
    Work (Except ScenarioFailure (Answer (Page CloudProvider))) :=
  c.get "/cloud_providers"
    ((search.map (Prod.mk "search")).toList ++ (order.map (Prod.mk "order")).toList)

end Client
end Provision.Management
