import Provision.Kind.IdentityProvider
import Provision.Terraform.Invocation
import Provision.Text.Pieces

/-!
Command line arguments: options, a subcommand, options of the subcommand, and for `apply` flags
for terraform after two dashes. Arguments are read from left to right, and the first one that is
wrong, or that asks for the version or for help, ends the reading.
-/

set_option autoImplicit false

namespace Provision.CommandLine

open Terraform (Subcommand)

inductive KindName where
  | cluster
  | machinePool
  | identityProvider (t : IdpType)
  | cloudProviders
deriving DecidableEq, Repr

namespace KindName

def text : KindName → String
  | .cluster => "cluster"
  | .machinePool => "machine-pool"
  | .identityProvider t => "idp-" ++ t.name
  | .cloudProviders => "cloud-providers"

def all : List KindName :=
  [.cluster, .machinePool] ++ IdpType.all.map .identityProvider ++ [.cloudProviders]

def ofText? (s : String) : Option KindName := all.find? fun k => k.text == s

end KindName

inductive Step where
  | init
  | apply (args : Option Path) (varFiles : List Path) (extra : List String)
  | output
  | destroy (args : Option Path)
  | «show» (resource : Option String)
deriving DecidableEq

structure Command where
  verbose : Bool
  json : Bool
  kind : KindName
  dir : Option Path
  step : Step
deriving DecidableEq

inductive Stop where
  | version
  | help
  | usage
deriving DecidableEq, Repr

inductive Opt where
  | verbose
  | json
  | version
  | help
  | kind
  | dir
  | args
  | varFile
  | resource
deriving DecidableEq, Repr

namespace Opt

def long : Opt → String
  | .verbose => "verbose"
  | .json => "json"
  | .version => "version"
  | .help => "help"
  | .kind => "kind"
  | .dir => "dir"
  | .args => "args"
  | .varFile => "var-file"
  | .resource => "resource"

def short? : Opt → Option Char
  | .verbose => some 'v'
  | .version => some 'V'
  | .help => some 'h'
  | .kind => some 'k'
  | .dir => some 'd'
  | _ => none

def takesValue : Opt → Bool
  | .verbose | .json | .version | .help => false
  | .kind | .dir | .args | .varFile | .resource => true

def leading : List Opt := [.verbose, .json, .version, .help]

def common : List Opt := [.verbose, .json, .help, .kind, .dir]

def following : Subcommand → List Opt
  | .init | .output => common
  | .apply => common ++ [.args, .varFile]
  | .destroy => common ++ [.args]
  | .show => common ++ [.resource]

end Opt

structure Draft where
  verbose : Bool := false
  json : Bool := false
  kind : Option KindName := none
  dir : Option Path := none
  args : Option Path := none
  varFiles : List Path := []
  resource : Option String := none

namespace Draft

def path (s : String) : Except Stop Path := if s.isEmpty then .error .usage else .ok ⟨s⟩

def once {α : Type} (given : Option α) (v : Except Stop α) : Except Stop (Option α) :=
  if given.isSome then .error .usage else v.map some

def turnOn (d : Draft) : Opt → Except Stop Draft
  | .verbose => if d.verbose then .error .usage else .ok { d with verbose := true }
  | .json => if d.json then .error .usage else .ok { d with json := true }
  | .version => .error .version
  | .help => .error .help
  | _ => .error .usage

def kindOf (s : String) : Except Stop KindName :=
  match KindName.ofText? s with
  | some k => .ok k
  | none => .error .usage

/-- Takes an option with its value. Only variable files may be repeated. -/
def set (d : Draft) (o : Opt) (s : String) : Except Stop Draft :=
  match o with
  | .kind => (once d.kind (kindOf s)).map fun k => { d with kind := k }
  | .dir => (once d.dir (path s)).map fun p => { d with dir := p }
  | .args => (once d.args (path s)).map fun p => { d with args := p }
  | .varFile => (path s).map fun p => { d with varFiles := d.varFiles ++ [p] }
  | .resource => (once d.resource (.ok s)).map fun r => { d with resource := r }
  | _ => .error .usage

def step (d : Draft) (extra : List String) : Subcommand → Step
  | .init => .init
  | .apply => .apply d.args d.varFiles extra
  | .output => .output
  | .destroy => .destroy d.args
  | .show => .show d.resource

end Draft

abbrev Pending := Draft × Option Opt

def settled (d : Except Stop Draft) : Except Stop Pending := d.map fun d => (d, none)

/-- Reads what follows two dashes: a name, and maybe an equals sign and a value. -/
def readLong (allowed : List Opt) (d : Draft) (body : List Char) : Except Stop Pending :=
  let (name, value?) := match Text.splitOnce? '=' body with
    | some (name, value) => (name, some (String.ofList value))
    | none => (body, none)
  match allowed.find? (fun o => o.long.toList == name), value? with
  | none, _ => .error .usage
  | some o, none => if o.takesValue then .ok (d, some o) else settled (d.turnOn o)
  | some o, some v => if o.takesValue then settled (d.set o v) else .error .usage

/-- Reads what follows one dash: letters, the last of which may have its value behind it. -/
def readShort (allowed : List Opt) (d : Draft) : List Char → Except Stop Pending
  | [] => .ok (d, none)
  | c :: cs =>
    match allowed.find? fun o => o.short? == some c with
    | none => .error .usage
    | some o =>
      if o.takesValue then
        match cs with
        | [] => .ok (d, some o)
        | '=' :: v => settled (d.set o (String.ofList v))
        | v => settled (d.set o (String.ofList v))
      else
        match d.turnOn o with
        | .ok d => readShort allowed d cs
        | .error e => .error e

inductive Tail where
  | nothing
  | word (w : String) (rest : List String)
  | dashes (rest : List String)
deriving DecidableEq

/-- An argument that starts with a dash is no value, except for the dash alone. -/
def looksLikeOption (arg : String) : Bool :=
  match arg.toList with
  | ['-'] => false
  | '-' :: _ => true
  | _ => false

def readArgument (allowed : List Opt) (d : Draft) (arg : String) : Except Stop Pending :=
  match arg.toList with
  | '-' :: '-' :: body => readLong allowed d body
  | _ :: letters => readShort allowed d letters
  | [] => .error .usage

def readOptions (allowed : List Opt) : Draft → List String → Except Stop (Draft × Tail)
  | d, [] => .ok (d, .nothing)
  | d, arg :: rest =>
    if arg = "--" then .ok (d, .dashes rest)
    else if looksLikeOption arg then
      match readArgument allowed d arg with
      | .error e => .error e
      | .ok (d, none) => readOptions allowed d rest
      | .ok (d, some o) =>
        match rest with
        | [] => .error .usage
        | value :: rest =>
          if looksLikeOption value then .error .usage
          else
            match d.set o value with
            | .error e => .error e
            | .ok d => readOptions allowed d rest
    else .ok (d, .word arg rest)

def extraFlags (sub : Subcommand) : Tail → Except Stop (List String)
  | .nothing => .ok []
  | .dashes rest => if sub = .apply ∨ rest = [] then .ok rest else .error .usage
  | .word .. => .error .usage

def readSubcommand (top : Draft) (sub : Subcommand) (args : List String) :
    Except Stop Command := do
  let (d, tail) ← readOptions (Opt.following sub) {} args
  let extra ← extraFlags sub tail
  match d.kind with
  | none => .error .usage
  | some kind => .ok {
      verbose := top.verbose || d.verbose
      json := top.json || d.json
      kind := kind
      dir := d.dir
      step := d.step extra sub }

def readHelp : List String → Except Stop Command
  | [] => .error .help
  | [w] => if w = "help" ∨ (Subcommand.ofName? w).isSome then .error .help else .error .usage
  | _ => .error .usage

def Command.parse (args : List String) : Except Stop Command := do
  let (top, tail) ← readOptions Opt.leading {} args
  match tail with
  | .word w rest =>
    if w = "help" then readHelp rest
    else
      match Subcommand.ofName? w with
      | some sub => readSubcommand top sub rest
      | none => .error .usage
  | _ => .error .usage

end Provision.CommandLine
