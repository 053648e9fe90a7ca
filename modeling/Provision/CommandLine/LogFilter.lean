import Provision.CommandLine.Directive

set_option autoImplicit false

namespace Provision.CommandLine

/-- The directives of a filter. Of two that are as specific the later one counts. -/
structure LogFilter where
  directives : List Directive

namespace LogFilter

def closer (best : Option Directive) (d : Directive) : Option Directive :=
  match best with
  | none => some d
  | some b => if b.yields d then some d else some b

def deciding? (f : LogFilter) (e : Event) : Option Directive :=
  (f.directives.filter fun d => d.covers e).foldl closer none

def admits (f : LogFilter) (e : Event) : Bool :=
  match f.deciding? e with
  | some d => d.threshold.admits e.level
  | none => false

/-- The directives of a text, all of which have to be good. Without any, errors are let through. -/
def ofText? (s : String) : Option LogFilter :=
  let parts := (Text.pieces ',' s.toList).filter fun p => !p.isEmpty
  if parts.isEmpty then some ⟨[⟨none, {}, some .error⟩]⟩
  else (parts.mapM fun p => (DirectiveText.ofList p).read).map LogFilter.mk

def ownTargets : List String := ["tf_harness", "rhcs_e2e", "rhcs_e2e_cli"]

/-- This program's events from a level on, and the warnings of everything else. -/
def standard (verbose : Bool) : LogFilter :=
  let level : Level := if verbose then .debug else .info
  ⟨⟨none, {}, some .warn⟩ :: ownTargets.map fun t => ⟨some t, {}, some level⟩⟩

def ofVariable (value : Option String) (verbose : Bool) : LogFilter :=
  (value.bind ofText?).getD (standard verbose)

end LogFilter
end Provision.CommandLine
