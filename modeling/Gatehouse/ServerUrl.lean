import Gatehouse.Text.Blank
import Gatehouse.Text.Lowercase
/-!
Comparing the addresses of resource servers. Two addresses are the same server when they differ in
the case of letters and in slashes at the end only; a host beneath another one is another server.
-/

namespace Gatehouse.ServerUrl

/-- The form in which addresses are compared: no slashes at the end, and lower case. -/
def normalise (url : String) : String := Text.lowercase (Text.trimEndWhile (· == '/') url)

/-- Whether two addresses name the same server. -/
def same (a b : String) : Bool := normalise a == normalise b

end Gatehouse.ServerUrl
