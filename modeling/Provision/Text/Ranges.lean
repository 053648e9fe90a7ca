/-!
Sets of code points as ranges. The tables of this library are those of Unicode 17.
-/

set_option autoImplicit false

namespace Provision.Text

def inRanges (n : Nat) (rs : List (Nat × Nat)) : Bool := rs.any fun (lo, hi) => lo ≤ n && n ≤ hi

end Provision.Text
