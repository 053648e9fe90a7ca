import Provision.Kind.Basic

set_option autoImplicit false

namespace Provision

/-- Writes a member of an object; other documents have no place for one. -/
def Json.setMember (j : Json) (name : String) (v : Json) : Json :=
  match j with
  | .obj ms => .obj (insertMember name v ms)
  | j => j

def ResourceKind.freeForm : ResourceKind Json Json :=
  .ofRecord "raw" ⟨"raw"⟩ (fun u a => a.setMember "url" (.str u)) Outputs.document

end Provision
