import Provision.Machine
import Provision.ScenarioFailure
import Provision.Terraform.Child

set_option autoImplicit false

namespace Provision

open Machine (Work Ending)
open Terraform (Context)

structure ClusterLogin where
  server : String
  username : String
  password : String
  clusterId : String
  /-- Where the user's own configuration goes; the tool's default file without it. -/
  kubeconfigDir : Option Path := none
  insecureSkipTlsVerify : Bool := true
  extraFlags : List String := []
deriving DecidableEq

namespace ClusterLogin

def kubeconfig (l : ClusterLogin) : Option Path :=
  l.kubeconfigDir.map fun dir => dir.join ⟨l.clusterId ++ "." ++ l.username⟩

def args (l : ClusterLogin) : List String :=
  ["login", l.server, "--username=" ++ l.username, "--password=" ++ l.password] ++
    (if l.insecureSkipTlsVerify then ["--insecure-skip-tls-verify"] else []) ++
    (l.kubeconfig.map fun p => "--kubeconfig=" ++ p.text).toList ++ l.extraFlags

def passwordFlag : String := "--password="

def redactArg (arg : String) : String :=
  if passwordFlag.toList.isPrefixOf arg.toList then passwordFlag ++ Redaction.mask else arg

def redactedArgs (l : ClusterLogin) : List String := l.args.map redactArg

def loginTarget : String := "rhcs_e2e::openshift"

def failed (l : ClusterLogin) (reason : String) : ScenarioFailure :=
  .login l.server l.username reason

/-- What becomes of the tool once it has started: its first stream if it succeeds, and otherwise its
second one as the reason, or the first if that is empty. -/
def finish (l : ClusterLogin) (c : Context) : Ending → Work (Except ScenarioFailure String)
  | .cancelled => do
    Work.log (.warn loginTarget "oc login cancelled" [Event.field "server" l.server])
    pure (.error (l.failed "cancelled"))
  | .timedOut => do
    let seconds := Terraform.Child.limitSeconds c
    Work.log (.warn loginTarget "oc login timed out"
      [Event.field "server" l.server, Event.count "limit_secs" seconds])
    pure (.error (l.failed ("timed out after " ++ toString seconds ++ "s")))
  | .lost e => pure (.error (l.failed ("failed to collect output: " ++ e.message)))
  | .exited code out err =>
    if code = some 0 then do
      Work.log (Event.info loginTarget "logged in"
        [Event.field "server" l.server, Event.field "username" l.username]).lasting
      pure (.ok (Text.decode out))
    else do
      Work.log (.warn loginTarget "oc login failed"
        [Event.field "server" l.server, Event.count "exit_code" (code.getD (-1))])
      let reason := Text.decode err
      pure (.error (l.failed (if reason.isEmpty then Text.decode out else reason)))

def start (l : ClusterLogin) (binary : Path) (c : Context) :
    Work (Except ScenarioFailure String) := do
  Work.log (.debug loginTarget "spawning oc"
    [Event.field "binary" binary.text, Event.field "args" (Text.quotedList l.redactedArgs)])
  let started ← Work.spawn ⟨binary, l.args, none, [], c⟩
  match started with
  | .error e =>
    pure (.error (l.failed ("failed to start " ++ binary.text ++ ": " ++ e.message)))
  | .ok ending => l.finish c ending

def run (l : ClusterLogin) (binary : Path) (c : Context) :
    Work (Except ScenarioFailure String) :=
  match l.kubeconfigDir with
  | none => l.start binary c
  | some dir => do
    let made ← Work.makeDirectories dir
    match made with
    | .error e => pure (.error (l.failed ("cannot create " ++ dir.text ++ ": " ++ e.message)))
    | .ok _ => l.start binary c

def displayTool (binary : Path) : String := "OcCli \x7b binary: " ++ binary.quoted ++ " \x7d"

end ClusterLogin
end Provision
