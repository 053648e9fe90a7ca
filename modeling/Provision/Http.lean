set_option autoImplicit false

namespace Provision.Http

structure Request where
  address : String
  query : List (String × String)
  bearer : Option String
  userAgent : String
deriving DecidableEq

structure Response where
  status : Nat
  body : String
deriving DecidableEq

def Response.success (r : Response) : Bool := 200 ≤ r.status && r.status < 300

end Provision.Http
