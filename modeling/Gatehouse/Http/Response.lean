import Gatehouse.Json.Value
/-!
Responses of the HTTP surface.
-/

namespace Gatehouse.Http

/-- A response: status, headers and the text of the body. -/
structure Response where
  status : Nat
  headers : List (String × String)
  body : String
deriving DecidableEq

namespace Response

/-- The response without headers and body. -/
def ofStatus (status : Nat) : Response := ⟨status, [], ""⟩

def json (status : Nat) (v : Json.Value) : Response :=
  ⟨status, [("content-type", "application/json")], v.render⟩

def plain (status : Nat) (body : String) : Response :=
  ⟨status, [("content-type", "text/plain; charset=utf-8")], body⟩

def withHeader (r : Response) (name value : String) : Response :=
  { r with headers := r.headers ++ [(name, value)] }

/-- The response with the length of its body as a header. -/
def measured (r : Response) : Response :=
  r.withHeader "content-length" (toString r.body.utf8ByteSize)

def withoutBody (r : Response) : Response := { r with body := "" }

end Response

end Gatehouse.Http
