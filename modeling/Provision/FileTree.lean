import Provision.Route

/-!
A tree of directories and files. Every place is a list of names from the root; a path is followed
name by name, so a `.` or `..` needs the directory before it to exist. Changes touch one place at a
time. Links are left out, symbolic and hard ones: a place is a file of its own, and what is written
there is seen at no other place.
-/

set_option autoImplicit false

namespace Provision

inductive Fault where
  | notFound
  | permissionDenied
  | exists
  | notDirectory
  | isDirectory
  | nameTooLong
  | nulInName
  | nulInData
  | argumentTooLong
  | notText
deriving DecidableEq, Repr

namespace Fault

def numbered (text : String) (n : Nat) : String := text ++ " (os error " ++ toString n ++ ")"

def message : Fault → String
  | .notFound => numbered "No such file or directory" 2
  | .permissionDenied => numbered "Permission denied" 13
  | .exists => numbered "File exists" 17
  | .notDirectory => numbered "Not a directory" 20
  | .isDirectory => numbered "Is a directory" 21
  | .nameTooLong => numbered "File name too long" 36
  | .nulInName => "file name contained an unexpected NUL byte"
  | .nulInData => "nul byte found in provided data"
  | .argumentTooLong => numbered "Argument list too long" 7
  | .notText => "stream did not contain valid UTF-8"

end Fault

inductive Entry where
  | dir
  | file (content : String)
deriving DecidableEq

abbrev Place := List String

/-- The entries of a file system, and the place from which relative paths start. -/
structure FileTree where
  entries : List (Place × Entry)
  home : Place

namespace FileTree

def at? (t : FileTree) (p : Place) : Option Entry :=
  if p = [] then some .dir else t.entries.lookup p

def isDir (t : FileTree) (p : Place) : Bool := t.at? p == some .dir

def set (t : FileTree) (p : Place) (e : Entry) : FileTree :=
  { t with entries := (p, e) :: t.entries.filter fun m => m.1 != p }

def remove (t : FileTree) (p : Place) : FileTree :=
  { t with entries := t.entries.filter fun m => !p.isPrefixOf m.1 }

def start (t : FileTree) (r : Route) : Place := if r.absolute then [] else t.home

def checkName (n : String) : Except Fault Unit :=
  if 255 < n.utf8ByteSize then .error .nameTooLong else .ok ()

def enter (t : FileTree) (p : Place) (n : String) : Except Fault Place :=
  if n = "." then .ok p
  else if n = ".." then .ok p.dropLast
  else
    match checkName n with
    | .error e => .error e
    | .ok _ =>
      match t.at? (p ++ [n]) with
      | none => .error .notFound
      | some (.file _) => .error .notDirectory
      | some .dir => .ok (p ++ [n])

def walk (t : FileTree) : Place → List String → Except Fault Place
  | p, [] => .ok p
  | p, n :: ns =>
    match t.enter p n with
    | .error e => .error e
    | .ok q => t.walk q ns

def approach (t : FileTree) (r : Route) : Except Fault Place := t.walk (t.start r) r.through

/-- A path names something: it is not empty, has less than 4096 bytes and no zero among them. -/
def routeOf (p : Path) : Except Fault Route :=
  if p.text.toList.contains (Char.ofNat 0) then .error .nulInName
  else if p.text.toList = [] then .error .notFound
  else if 4096 ≤ p.text.utf8ByteSize then .error .nameTooLong
  else .ok p.route

/-- What lies at the end of a route, and where. A slash behind a name demands a directory. -/
def resolve (t : FileTree) (r : Route) : Except Fault (Place × Entry) :=
  match t.approach r with
  | .error e => .error e
  | .ok p =>
    match r.tip with
    | .here => .ok (p, .dir)
    | .above => .ok (p.dropLast, .dir)
    | .name n slash =>
      match checkName n with
      | .error e => .error e
      | .ok _ =>
        match t.at? (p ++ [n]) with
        | none => .error .notFound
        | some .dir => .ok (p ++ [n], .dir)
        | some (.file content) =>
          if slash then .error .notDirectory else .ok (p ++ [n], .file content)

def find (t : FileTree) (p : Path) : Except Fault (Place × Entry) :=
  match routeOf p with
  | .error e => .error e
  | .ok r => t.resolve r

def directory (t : FileTree) (p : Path) : Except Fault Place :=
  match t.find p with
  | .error e => .error e
  | .ok (_, .file _) => .error .notDirectory
  | .ok (q, .dir) => .ok q

def isDirectory (t : FileTree) (p : Path) : Bool :=
  match t.directory p with
  | .ok _ => true
  | .error _ => false

def exists? (t : FileTree) (p : Path) : Bool :=
  match t.find p with
  | .ok _ => true
  | .error _ => false

/-- Replaces the content of a file, or makes one in an existing directory. A path that ends in a
slash is never one of a file. -/
def write (t : FileTree) (p : Path) (content : String) : Except Fault FileTree :=
  match routeOf p with
  | .error e => .error e
  | .ok r =>
    match t.approach r with
    | .error e => .error e
    | .ok q =>
      match r.tip with
      | .name n false =>
        match checkName n with
        | .error e => .error e
        | .ok _ =>
          if t.isDir (q ++ [n]) then .error .isDirectory
          else .ok (t.set (q ++ [n]) (.file content))
      | _ => .error .isDirectory

def read (t : FileTree) (p : Path) : Except Fault String :=
  match t.find p with
  | .error e => .error e
  | .ok (_, .dir) => .error .isDirectory
  | .ok (_, .file content) => .ok content

def makeDirectory (t : FileTree) (r : Route) : Except Fault FileTree :=
  match t.approach r with
  | .error e => .error e
  | .ok q =>
    match r.tip with
    | .name n _ =>
      match checkName n with
      | .error e => .error e
      | .ok _ =>
        if (t.at? (q ++ [n])).isSome then .error .exists else .ok (t.set (q ++ [n]) .dir)
    | _ => .error .exists

def settle (t : FileTree) (r : Route) (e : Fault) : Except Fault Unit :=
  match e, t.resolve r with
  | .exists, .ok (_, .dir) => .ok ()
  | e, _ => .error e

/-- Makes a directory. If the way to it is missing, the way is made first, and stays if the
directory cannot be made after all. -/
def ensure (t : FileTree) (r : Route) (way : FileTree → Except Fault Unit × FileTree) :
    Except Fault Unit × FileTree :=
  match t.makeDirectory r with
  | .ok t => (.ok (), t)
  | .error .notFound =>
    match way t with
    | (.error e, t) => (.error e, t)
    | (.ok _, t) =>
      match t.makeDirectory r with
      | .ok t => (.ok (), t)
      | .error e => (t.settle r e, t)
  | .error e => (t.settle r e, t)

def ensureNames (absolute : Bool) : List String → FileTree → Except Fault Unit × FileTree
  | [], t => (.ok (), t)
  | n :: above, t =>
    t.ensure (.ofNames absolute (n :: above).reverse false) (ensureNames absolute above)

def makeDirectories (t : FileTree) (p : Path) : Except Fault Unit × FileTree :=
  if p.text.toList = [] then (.ok (), t)
  else
    match routeOf p with
    | .error e => (.error e, t)
    | .ok r => t.ensure r (ensureNames p.isAbsolute p.steps.reverse.tail)

def list (t : FileTree) (p : Path) : List String :=
  match t.directory p with
  | .error _ => []
  | .ok q =>
    (t.entries.filterMap fun m =>
      if m.1 ≠ [] ∧ m.1.dropLast = q then m.1.getLast? else none).mergeSort
        fun a b => decide (a ≤ b)

def fresh : FileTree := ⟨[(["work"], .dir), (["tmp"], .dir)], ["work"]⟩

end FileTree
end Provision
