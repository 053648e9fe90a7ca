import Provision.CommandLine.Program
import Provision.Json.Printer
import Provision.Json.Reader

/-!
The command line program on a real machine. Children are run by whoever holds the other end of
standard input: each child's ending is read from it as one line with a JSON object of `exit`,
`stdout` and `stderr`, where an `exit` of null means a signal. Log events go to standard error.
-/

set_option autoImplicit false

namespace Provision.Main

open CommandLine (Command Start LogFilter)

def faultOf : IO.Error → Fault
  | .noFileOrDirectory .. => .notFound
  | .permissionDenied .. => .permissionDenied
  | .alreadyExists .. => .exists
  | .inappropriateType .. => .isDirectory
  | .userError _ => .notText
  | _ => .notFound

def caught {α : Type} (act : IO α) : IO (Except Fault α) := do
  try
    return .ok (← act)
  catch e =>
    return .error (faultOf e)

def endingOf (j : Json) : Machine.Ending :=
  let code := match j.member? "exit" with
    | some .null => none
    | exit => some (Json.asInt exit)
  .exited code (Json.asString (j.member? "stdout")).toUTF8.toList
    (Json.asString (j.member? "stderr")).toUTF8.toList

/-- The ending of the next child. Without a line for it the child cannot start. -/
def nextEnding : IO (Except Fault Machine.Ending) := do
  let line ← (← IO.getStdin).getLine
  match Json.parse line with
  | some j => return .ok (endingOf j)
  | none => return .error .notFound

def logLine (json : Bool) (e : Event) : String :=
  if json then e.document.compact
  else String.intercalate " " (e.level.text :: e.message ::
    e.fields.map fun (k, v) => k ++ "=" ++ v.compact)

def answer (filter : LogFilter) (json : Bool) : (q : Machine.Request) → IO q.Answer
  | .log e => do if filter.admits e then IO.eprintln (logLine json e)
  | .isDirectory p => do (← IO.currentDir) / p.text |>.isDir
  | .makeDirectories p => caught (IO.FS.createDirAll p.text)
  | .spawn _ => nextEnding
  | .fetch _ => pure (.error "no network")
  | .wording _ => pure fun _ => "invalid JSON"

def fileOf? (c : Command) : Option Path :=
  match c.step with
  | .apply file _ _ => file
  | .destroy file => file
  | _ => none

def start (arguments : List String) : IO Start := do
  let names := "RUST_LOG" :: Settings.variableNames
  let values ← names.mapM fun n => do return (n, ← IO.getEnv n)
  let content ← match (Command.parse arguments).toOption.bind fileOf? with
    | some p => caught (IO.FS.readFile p.text)
    | none => pure (.error .notFound)
  return { arguments := arguments, lookup := fun n => (values.lookup n).join
           fileAt := fun _ => content }

def run (arguments : List String) : IO UInt32 := do
  let start ← start arguments
  let json := match Command.parse arguments with
    | .ok c => c.json
    | .error _ => false
  let exit ← start.run.perform (answer start.logFilter json)
  IO.print exit.stdout
  IO.eprint exit.stderr
  return exit.code.toUInt32

end Provision.Main

def main (arguments : List String) : IO UInt32 := Provision.Main.run arguments
