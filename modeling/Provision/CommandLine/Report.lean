import Provision.Text.Pieces

set_option autoImplicit false

namespace Provision.CommandLine

structure Report where
  headline : String
  cause : Option String := none
deriving DecidableEq

namespace Report

def indented (s : String) : String :=
  String.intercalate "\n" ((Text.pieces '\n' s.toList).map fun l => "    " ++ String.ofList l)

def text (r : Report) : String :=
  "Error: " ++ r.headline ++ "\n" ++
    match r.cause with
    | some c => "\nCaused by:\n" ++ indented c ++ "\n"
    | none => ""

end Report
end Provision.CommandLine
