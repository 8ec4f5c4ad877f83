import Gatehouse.Admission
import Gatehouse.Http.Response
import Gatehouse.Identity.Json
/-!
The HTTP surface: the health check, the identity endpoint and the guard in front of it. A guard
either lets a request through, when its path is public, or has its caller identified first; what
stands behind the guard then sees the identity that was found, and never another one.
-/

namespace Gatehouse

open Http Json

/-- A request to the HTTP surface. -/
structure WebRequest where
  method : String
  path : String
  headers : Headers

/-- The path of the target of a request: without the query, and without the server if it is named.
-/
def WebRequest.pathOf (target : String) : String :=
  let upTo (stop : Char → Bool) (cs : List Char) := cs.takeWhile fun c => !stop c
  let cs := upTo (fun c => c == '?' || c == '#') target.toList
  let scheme := upTo (· == ':') cs
  match cs.drop scheme.length with
  | ':' :: '/' :: '/' :: rest =>
    let path := rest.dropWhile (· != '/')
    if scheme.contains '/' then String.ofList cs
    else if path.isEmpty then "/" else String.ofList path
  | _ => String.ofList cs

/-- The end of the run that a request waits for. -/
inductive RunEnd
  | result (r : Except Failure (Option IdentityContext))
  /-- The run broke down. -/
  | broken
  /-- The run took too long, and the request no longer waits for it. -/
  | cutOff

/-- What becomes of a request. -/
inductive Handling
  /-- It is answered at once. -/
  | immediate (response : Response)
  /-- It is answered when the run that identifies its caller ends. -/
  | guarded (request : Request) (respond : RunEnd → Response)

/-- What becomes of a request whose response is changed before it is sent. -/
def Handling.map (f : Response → Response) : Handling → Handling
  | .immediate r => .immediate (f r)
  | .guarded request respond => .guarded request fun e => f (respond e)

/-- The failure of a request whose run broke down. -/
def brokenRun : Failure := .internal "pipeline task failed"

/-- Demands an identity before a request gets any further. -/
structure Guard where
  /-- The roles that the endpoint is interested in. -/
  requested : RoleSet
  /-- Whether requests without any credential are let through. -/
  bootstrap : Bool
  /-- Every path that starts with one of these is let through. -/
  publicPaths : List String

namespace Guard

/-- Whether a path is let through. -/
def isPublic (g : Guard) (path : String) : Bool :=
  g.publicPaths.any fun p => p.toList.isPrefixOf path.toList

/-- The response to a request whose run came to an end; `inner` is what stands behind the guard. -/
def respond (inner : Option IdentityContext → Response) : RunEnd → Response
  | .result (.ok context) => inner context
  | .result (.error f) => f.response
  | .broken => brokenRun.response
  | .cutOff => .ofStatus 408

def handle (g : Guard) (r : WebRequest) (inner : Option IdentityContext → Response) : Handling :=
  if g.isPublic r.path then .immediate (inner none)
  else .guarded ⟨r.headers, r.path, g.requested, g.bootstrap⟩ (respond inner)

end Guard

namespace Surface

/-- The version that the server reports. -/
def version : String := "0.4.0"

def healthPath : String := "/health"

def identityPath : String := "/auth/v1/identity"

def health : Response :=
  .json 200 (.object [("status", .text "healthy"), ("version", .text version)])

/-- The complaint of the identity endpoint when no guard has left it an identity. -/
def missingContext : String :=
  "Missing request extension: Extension of type \x60aaa_core::identity::IdentityContext\x60 was " ++
    "not found. Perhaps you forgot to add it? See \x60axum::Extension\x60."

def identity : Option IdentityContext → Response
  | some c => .json 200 c.toJson
  | none => .plain 500 missingContext

/-- Whether an endpoint that can only be read has a method. -/
def isRead (method : String) : Bool := method == "GET" || method == "HEAD"

/-- The response as it is sent: with its length, and without its body if only the head was asked
for. What is granted to a tunnel has neither. -/
def send (method : String) (r : Response) : Response :=
  if method == "CONNECT" && 200 ≤ r.status && r.status < 300 then r.withoutBody
  else if method == "HEAD" then r.measured.withoutBody
  else r.measured

/-- The response of a path to a method: `answer` if the path can be read only and the method reads;
every response to another method says which ones there are. -/
def sendRead (method : String) (r : Response) : Response :=
  send method (if isRead method then r else r.withHeader "allow" "GET,HEAD")

/-- What a path that can only be read answers to a method. -/
def readOnly (method : String) (r : Response) : Response :=
  if isRead method then r else .ofStatus 405

/-- Handles a request to the service. The identity endpoint is interested in every role. -/
def handle (publicPaths : List String) (r : WebRequest) : Handling :=
  if r.path == healthPath then .immediate (sendRead r.method (readOnly r.method health))
  else if r.path == identityPath then
    let guard : Guard := ⟨.full, false, publicPaths⟩
    (guard.handle r fun c => readOnly r.method (identity c)).map (sendRead r.method)
  else .immediate (.ofStatus 404)

/-- Handles a request to an application that has one endpoint behind a guard, for every path and
method: it answers for whom the caller acts. -/
def handleGuarded (g : Guard) (r : WebRequest) : Handling :=
  (g.handle r fun c => .plain 200 ((c.map (·.effectiveUser.toText)).getD "anonymous")).map
    (send r.method)

end Surface

end Gatehouse
