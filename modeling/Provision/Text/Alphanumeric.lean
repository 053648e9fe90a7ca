import Provision.Text.Alphabetic
import Provision.Text.Numeric

set_option autoImplicit false

namespace Provision.Text

def isAlphanumeric (c : Char) : Bool := isAlphabetic c || isNumeric c

end Provision.Text
