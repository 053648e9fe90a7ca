import Provision.Dialogue
import Provision.Event
import Provision.FileTree
import Provision.Http
import Provision.Terraform.Invocation

set_option autoImplicit false

namespace Provision.Machine

/-- A child process to start: where, with which variables besides the inherited ones, and within
which limits. -/
structure Command where
  program : Path
  args : List String
  directory : Option Path
  environment : List (String × String)
  context : Terraform.Context
deriving DecidableEq

/-- How a child process ended. A signal leaves no exit code. What it wrote may be lost. -/
inductive Ending where
  | exited (code : Option Int) (stdout stderr : List UInt8)
  | lost (e : Fault)
  | cancelled
  | timedOut
deriving DecidableEq

inductive Request where
  | log (e : Event)
  | isDirectory (p : Path)
  | makeDirectories (p : Path)
  | spawn (c : Command)
  | fetch (r : Http.Request)
  | wording (origin : String)

/-- A child may fail to start, and a request may find no answer, for a reason in words. How it is put
that a text of some origin cannot be read is up to its reader. -/
abbrev Request.Answer : Request → Type
  | .log _ => Unit
  | .isDirectory _ => Bool
  | .makeDirectories _ => Except Fault Unit
  | .spawn _ => Except Fault Ending
  | .fetch _ => Except String Http.Response
  | .wording _ => Wording

abbrev Work := Dialogue Request Request.Answer

namespace Work

def log (e : Event) : Work Unit := Dialogue.question (Request.log e)

def isDirectory (p : Path) : Work Bool := Dialogue.question (Request.isDirectory p)

def makeDirectories (p : Path) : Work (Except Fault Unit) :=
  Dialogue.question (Request.makeDirectories p)

def spawn (c : Command) : Work (Except Fault Ending) := Dialogue.question (Request.spawn c)

def fetch (r : Http.Request) : Work (Except String Http.Response) :=
  Dialogue.question (Request.fetch r)

def wording (origin : String) : Work Wording := Dialogue.question (Request.wording origin)

end Work
end Provision.Machine
