import Provision.Failure
import Provision.Json.Path
import Provision.Text.Blank

set_option autoImplicit false

namespace Provision

/-- What a session runs against. The time limit of one invocation is in milliseconds; no limit is
`none`. -/
structure Settings where
  gatewayUrl : String := "https://api.openshift.com"
  token : Option String := none
  manifestsDir : Path := ⟨"tests/tf-manifests"⟩
  terraformBinary : Path := ⟨"terraform"⟩
  timeout : Option Nat := some 3600000
  clusterId : Option String := none
  ocBinary : Path := ⟨"oc"⟩
  kubeconfigDir : Option Path := none
deriving DecidableEq, Inhabited

namespace Settings

def variableNames : List String := [
  "RHCS_URL", "RHCS_TOKEN", "RHCS_MANIFESTS_DIR", "TF_BINARY", "TF_TIMEOUT_SECS",
  "RHCS_CLUSTER_ID", "OC_BINARY", "RHCS_KUBECONFIG_DIR"]

def get (lookup : String → Option String) (key : String) : Option String :=
  (lookup key).filter fun v => !Text.allBlank v

/-- The time limit that a text of whole seconds stands for; zero lifts it. -/
def timeoutOf? (raw : String) : Option (Option Nat) :=
  (Json.natural64? (Text.trimmed raw)).map fun n => if n = 0 then none else some (n * 1000)

def limitOf (held : Option String) : Except Failure (Option Nat) :=
  match held with
  | none => .ok ({} : Settings).timeout
  | some raw =>
    match timeoutOf? raw with
    | some t => .ok t
    | none => .error (.config
        ("TF_TIMEOUT_SECS must be whole seconds, got " ++ Text.quoted raw))

/-- Settings with a time limit, and for the rest what the variables hold; what is unset keeps its
default. -/
def within (lookup : String → Option String) (t : Option Nat) : Settings :=
  let base : Settings := {}
  { gatewayUrl := (get lookup "RHCS_URL").getD base.gatewayUrl
    token := get lookup "RHCS_TOKEN"
    manifestsDir := ((get lookup "RHCS_MANIFESTS_DIR").map Path.mk).getD base.manifestsDir
    terraformBinary := ((get lookup "TF_BINARY").map Path.mk).getD base.terraformBinary
    timeout := t
    clusterId := get lookup "RHCS_CLUSTER_ID"
    ocBinary := ((get lookup "OC_BINARY").map Path.mk).getD base.ocBinary
    kubeconfigDir := (get lookup "RHCS_KUBECONFIG_DIR").map Path.mk }

def ofLookup (lookup : String → Option String) : Except Failure Settings :=
  (limitOf (get lookup "TF_TIMEOUT_SECS")).map (within lookup)

def manifestDir (s : Settings) (relative : Path) : Path := s.manifestsDir.join relative

def context (s : Settings) : Terraform.Context := ⟨s.timeout, false⟩

end Settings
end Provision
