import Provision.Proofs.Json.Natural
import Provision.Settings

set_option autoImplicit false

namespace Provision

namespace Text

end Text

namespace Settings

inductive Variable where
  | gatewayUrl
  | token
  | manifestsDir
  | terraformBinary
  | timeout
  | clusterId
  | ocBinary
  | kubeconfigDir
deriving DecidableEq

namespace Variable

def name : Variable → String
  | .gatewayUrl => "RHCS_URL"
  | .token => "RHCS_TOKEN"
  | .manifestsDir => "RHCS_MANIFESTS_DIR"
  | .terraformBinary => "TF_BINARY"
  | .timeout => "TF_TIMEOUT_SECS"
  | .clusterId => "RHCS_CLUSTER_ID"
  | .ocBinary => "OC_BINARY"
  | .kubeconfigDir => "RHCS_KUBECONFIG_DIR"

def all : List Variable :=
  [.gatewayUrl, .token, .manifestsDir, .terraformBinary, .timeout, .clusterId, .ocBinary,
    .kubeconfigDir]

def Value : Variable → Type
  | .gatewayUrl => String
  | .token => Option String
  | .manifestsDir => Path
  | .terraformBinary => Path
  | .timeout => Option Nat
  | .clusterId => Option String
  | .ocBinary => Path
  | .kubeconfigDir => Option Path

end Variable

def value (s : Settings) : (v : Variable) → v.Value
  | .gatewayUrl => s.gatewayUrl
  | .token => s.token
  | .manifestsDir => s.manifestsDir
  | .terraformBinary => s.terraformBinary
  | .timeout => s.timeout
  | .clusterId => s.clusterId
  | .ocBinary => s.ocBinary
  | .kubeconfigDir => s.kubeconfigDir

def Variable.read : (v : Variable) → Option String → Except Failure v.Value
  | .gatewayUrl, held => .ok (held.getD ({} : Settings).gatewayUrl)
  | .token, held => .ok held
  | .manifestsDir, held => .ok ((held.map Path.mk).getD ({} : Settings).manifestsDir)
  | .terraformBinary, held => .ok ((held.map Path.mk).getD ({} : Settings).terraformBinary)
  | .timeout, held => limitOf held
  | .clusterId, held => .ok held
  | .ocBinary, held => .ok ((held.map Path.mk).getD ({} : Settings).ocBinary)
  | .kubeconfigDir, held => .ok (held.map Path.mk)

variable {lookup : String → Option String} {s : Settings} {e : Failure}

def secondsText : Option Nat → String
  | none => "0"
  | some t => toString (t / 1000)

/-- What a variable holds so that its field is read back. -/
def text? (s : Settings) : Variable → Option String
  | .gatewayUrl => some s.gatewayUrl
  | .token => s.token
  | .manifestsDir => some s.manifestsDir.text
  | .terraformBinary => some s.terraformBinary.text
  | .timeout => some (secondsText s.timeout)
  | .clusterId => s.clusterId
  | .ocBinary => some s.ocBinary.text
  | .kubeconfigDir => s.kubeconfigDir.map Path.text

/-- The environment in which every set field stands in its variable. -/
def environment (s : Settings) (key : String) : Option String :=
  (Variable.all.find? fun v => v.name = key).bind s.text?

example : ofLookup (fun key =>
      if key = "TF_TIMEOUT_SECS" then some " +07\t" else if key = "RHCS_TOKEN" then some "  " else none) =
    .ok { timeout := some 7000 } := by
  decide +kernel

end Settings
end Provision
