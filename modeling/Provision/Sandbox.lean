import Provision.Assoc
import Provision.Machine

/-!
A machine in memory. Its file system is a tree, and its programs are stand-ins that act out a script
and are recorded. Time passes only while a stand-in sleeps.
-/

set_option autoImplicit false

namespace Provision

structure Act where
  exit : Int := 0
  stdout : List UInt8 := []
  stderr : List UInt8 := []
  sleep : Nat := 0
  signal : Bool := false
deriving DecidableEq, Inhabited

namespace Act

def code (a : Act) : Option Int := if a.signal then none else some (a.exit % 256)

end Act

structure Call where
  program : String
  args : List String
  place : Place
  environment : Assoc String
deriving DecidableEq

/-- A machine in memory. The `n`th act with a first argument is for the `n`th call with it. Calls
and events are kept latest first. `peer` answers requests, and `wording` is the readers'. A search
list of its own, in which there are no stand-ins, is for children without one. -/
structure Sandbox where
  tree : FileTree
  programs : List String
  acts : List (String × Act) := []
  calls : List Call := []
  events : List Event := []
  peer : Http.Request → Except String Http.Response := fun _ => .error "<transport>"
  wording : String → Wording := fun _ _ => "<json>"
  searchList : Option String := none

namespace Sandbox

open Machine (Command Ending Request Work)

def push (s : Sandbox) (sub : String) (a : Act) : Sandbox :=
  { s with acts := s.acts ++ [(sub, a)] }

/-- The act for the next call with a first argument: the calls so far have used up the acts before
it, and without one the stand-in succeeds in silence. -/
def nextAct (s : Sandbox) (sub : String) : Act :=
  let acts := (s.acts.filter fun a => a.1 == sub).map Prod.snd
  let calls := s.calls.filter fun c => c.args.head?.getD "" == sub
  acts[calls.length]?.getD {}

def directoryOf (s : Sandbox) (c : Command) : Except Fault Place :=
  match c.directory with
  | none => .ok s.tree.home
  | some p => s.tree.directory p

def hasNul (s : String) : Bool := s.toList.contains (Char.ofNat 0)

def texts (c : Command) : List String :=
  c.program.text :: c.args ++ c.environment.map fun (k, v) => k ++ "=" ++ v

def isSpoilt (c : Command) : Bool :=
  (texts c).any hasNul || (c.directory.map Path.text).any hasNul

def isTooLong (c : Command) : Bool := (texts c).any fun s => 131072 ≤ s.utf8ByteSize

def refusal (s : Sandbox) (place : Place) (program : Path) : Fault :=
  match { s.tree with home := place }.find program with
  | .error e => e
  | .ok _ => .permissionDenied

def isPassing : Fault → Bool
  | .notFound | .notDirectory | .permissionDenied => true
  | _ => false

/-- Why none of some directories holds a program: a fault that ends the search, else a program that
may not be run, else what the last directory shows. -/
def searchFault (before : Fault) : List Fault → Fault
  | [] => before
  | e :: es =>
    if !isPassing e then e
    else searchFault (if before = .permissionDenied then before else e) es

def candidate (program : Path) (dir : List Char) : Path :=
  if dir = [] then program else ⟨String.ofList dir ++ "/" ++ program.text⟩

def searchListFor (s : Sandbox) (c : Command) : Option String :=
  ((Assoc.ofList c.environment).entries.lookup "PATH").or s.searchList

/-- Why a name without a slash starts no stand-in, if it does not. The stand-ins lie in a directory,
which holds itself and the one above it, too. -/
def absence (s : Sandbox) (c : Command) : Option Fault :=
  if c.program.text = "." ∨ c.program.text = ".." then some .permissionDenied
  else if 255 < c.program.text.utf8ByteSize then some .nameTooLong
  else if !s.programs.contains c.program.text then some .notFound
  else if isTooLong c then some .argumentTooLong
  else none

/-- Why a program cannot be started, if it cannot. A name with a slash is a path. Any other name is
a stand-in's, unless there is a search list. -/
def obstacle (s : Sandbox) (place : Place) (c : Command) : Option Fault :=
  if c.program.text = "" then some .notFound
  else if '/' ∈ c.program.text.toList then some (s.refusal place c.program)
  else
    match s.searchListFor c with
    | some dirs => some (searchFault .notFound
        ((Text.pieces ':' dirs.toList).map fun d => s.refusal place (candidate c.program d)))
    | none => s.absence c

def act (s : Sandbox) (place : Place) (c : Command) : Ending × Sandbox :=
  let a := s.nextAct (c.args.head?.getD "")
  let call : Call := ⟨c.program.text, c.args, place, .ofList c.environment⟩
  let s := { s with calls := call :: s.calls }
  if c.context.limit.any fun limit => limit ≤ a.sleep then (.timedOut, s)
  else (.exited a.code a.stdout a.stderr, s)

/-- Starts a child. One that its caller has given up is stopped before it acts. -/
def spawn (s : Sandbox) (c : Command) : Except Fault Ending × Sandbox :=
  if isSpoilt c then (.error .nulInData, s)
  else
    match s.directoryOf c with
    | .error e => (.error e, s)
    | .ok place =>
      match s.obstacle place c with
      | some e => (.error e, s)
      | none =>
        if c.context.cancelled then (.ok .cancelled, s)
        else
          let (ending, s) := s.act place c
          (.ok ending, s)

def answer : (q : Request) → Sandbox → q.Answer × Sandbox
  | .log e, s => ((), { s with events := e :: s.events })
  | .isDirectory p, s => (s.tree.isDirectory p, s)
  | .makeDirectories p, s =>
    let (made, t) := s.tree.makeDirectories p
    (made, { s with tree := t })
  | .spawn c, s => s.spawn c
  | .fetch r, s => (s.peer r, s)
  | .wording origin, s => (s.wording origin, s)

def run {α : Type} (s : Sandbox) (w : Work α) : α × Sandbox := Dialogue.run answer w s

end Sandbox
end Provision
