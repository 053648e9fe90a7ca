set_option autoImplicit false

namespace Provision.Text

def size : List Char → Nat
  | [] => 0
  | c :: cs => c.utf8Size + size cs

/-- Cuts a text behind some bytes. No cut goes through a character. -/
def splitBytes? : Nat → List Char → Option (List Char × List Char)
  | 0, cs => some ([], cs)
  | _ + 1, [] => none
  | n + 1, c :: cs =>
    if c.utf8Size ≤ n + 1 then
      (splitBytes? (n + 1 - c.utf8Size) cs).map fun (before, after) => (c :: before, after)
    else none

end Provision.Text
