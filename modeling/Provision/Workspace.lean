import Provision.FileTree
import Provision.Template

/-!
Workspaces: directories that hold manifests. An existing one is used and left alone; a temporary one
is removed with its content when it is dropped. A template is filled in before anything is written.
-/

set_option autoImplicit false

namespace Provision

inductive Workspace where
  | existing (dir : Path)
  | temporary (dir : Path)
deriving DecidableEq

namespace Workspace

def path : Workspace → Path
  | .existing dir => dir
  | .temporary dir => dir

def isTemporary : Workspace → Bool
  | .existing _ => false
  | .temporary _ => true

def ofDirectory (t : FileTree) (dir : Path) : Except Failure Workspace :=
  if t.isDirectory dir then .ok (.existing dir)
  else .error (.workspace ("manifest directory " ++ dir.quoted ++ " does not exist"))

def stem : String := "tf-harness-"

/-- The directory of a temporary workspace in a place; what stands behind the stem in its name is for
the system to choose. -/
def temporaryDir (root : Place) (name : String) : Path := .below (root ++ [stem ++ name])

def createTemporary (root : Place) (t : FileTree) (name : String) :
    Except Failure Workspace × FileTree :=
  let dir := temporaryDir root name
  match (FileTree.routeOf dir).bind t.makeDirectory with
  | .ok t' => (.ok (.temporary dir), t')
  | .error e => (.error (.io (e.message ++ " at path " ++ dir.quoted)), t)

def root : Place := ["tmp"]

def temporaryPlace (n : Nat) : Place := root ++ [stem ++ toString n]

/-- A number that no temporary workspace has: one more entry is tried than there are. -/
def freshNumber (t : FileTree) : Nat :=
  ((List.range (t.entries.length + 1)).find? fun n => (t.at? (temporaryPlace n)).isNone).getD 0

def makeTemporary (t : FileTree) : Workspace × FileTree :=
  let name := toString (freshNumber t)
  (.temporary (temporaryDir root name), (createTemporary root t name).2)

def target (w : Workspace) (file : String) : Path := w.path.join ⟨file⟩

def write (w : Workspace) (t : FileTree) (file content : String) :
    Except Failure Path × FileTree :=
  match t.write (w.target file) content with
  | .ok t' => (.ok (w.target file), t')
  | .error e => (.error (.io e.message), t)

def render (w : Workspace) (t : FileTree) (file template : String)
    (vars : List (String × String)) : Except Failure Path × FileTree :=
  match Template.render template vars with
  | .ok content => w.write t file content
  | .error e => (.error e, t)

def drop (w : Workspace) (t : FileTree) : FileTree :=
  match w with
  | .existing _ => t
  | .temporary dir =>
    match t.directory dir with
    | .ok p => t.remove p
    | .error _ => t

end Workspace
end Provision
