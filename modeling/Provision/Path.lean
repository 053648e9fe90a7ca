set_option autoImplicit false

namespace Provision

/-- A file system path, kept exactly as it was written. -/
structure Path where
  text : String
deriving DecidableEq, Inhabited

namespace Path

def isAbsolute (p : Path) : Bool := p.text.toList.head? = some '/'

/-- An absolute right side replaces the left. Otherwise one slash divides the two, unless the left
is empty or already ends in one; joining the empty text leaves a slash at the end. -/
def join (p q : Path) : Path :=
  if q.isAbsolute then q
  else if p.text.toList = [] ∨ p.text.toList.getLast? = some '/' then ⟨p.text ++ q.text⟩
  else ⟨p.text ++ "/" ++ q.text⟩

end Path
end Provision
