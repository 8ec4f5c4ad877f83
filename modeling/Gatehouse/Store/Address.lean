import Gatehouse.Net.Url
/-!
Addresses of databases. An address is usable when it can be taken apart, the parts that name things
are text, and the parameters in its query that have a form of their own keep to it; other parameters
do not matter.
-/

namespace Gatehouse.Store

open Net Encoding Text

/-- The ways to protect a connection that can be asked for. -/
def protectionModes : List String :=
  ["disable", "allow", "prefer", "require", "verify-ca", "verify-full"]

/-- Whether a parameter of an address has a value that it can have. -/
def isUsableParameter (name value : String) : Bool :=
  if name == "sslmode" || name == "ssl-mode" then protectionModes.contains (lowerAsciiText value)
  else if name == "statement-cache-capacity" then (readUnsigned UInt64.size value.toList).toBool
  else if name == "port" then (readUnsigned UInt16.size value.toList).toBool
  else if name == "hostaddr" then (IpAddress.parse? value).isSome
  else true

def isTextual (part : List Char) : Bool := (percentDecodeText? part).isSome

/-- Whether a database could be at an address. -/
def isUsableAddress (address : String) : Bool :=
  match Url.parse? address with
  | none => false
  | some url =>
    let isSocket := (percentDecode (url.host.getD [])).head? == some 0x2f
    (!isSocket || isTextual (url.host.getD [])) && isTextual url.user &&
      isTextual (url.password.getD []) && isTextual url.path &&
      (Url.queryPairs (url.query.getD [])).all fun (name, value) => isUsableParameter name value

end Gatehouse.Store
