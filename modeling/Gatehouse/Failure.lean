import Gatehouse.Http.Response
import Gatehouse.Identity
import Gatehouse.Json.Decode
/-!
Why a request is not given an identity, and how the caller is told. The reasons are for the log of
the server; the envelope that a caller sees has a fixed text for each kind of failure, and shows the
reason of a rejected delegation only.
-/

namespace Gatehouse

open Json

/-- A failure of authentication or authorization. -/
inductive Failure
  /-- Nothing that can be used was presented where something is needed. -/
  | missingCredential
  /-- The identity provider did not accept the token, or could not describe its subject. -/
  | invalidToken (reason : String)
  /-- The client id is unknown or its secret is wrong. -/
  | invalidSecret
  /-- The token is valid, but its subject is no user of the platform. -/
  | unknownPrincipal (subject : String)
  /-- The caller holds none of the roles that are asked for. -/
  | insufficientRole
  /-- The caller may not act for the user it names. -/
  | invalidDelegation (reason : String)
  /-- Storage or another part of the server failed. -/
  | internal (reason : String)
deriving DecidableEq, Repr

namespace Failure

/-- The text of a failure for the log. -/
def message : Failure → String
  | .missingCredential => "missing credential"
  | .invalidToken reason => "invalid token: " ++ reason
  | .invalidSecret => "invalid client credentials"
  | .unknownPrincipal subject => "unknown principal: " ++ subject
  | .insufficientRole => "insufficient role"
  | .invalidDelegation reason => "invalid delegation: " ++ reason
  | .internal reason => "internal error: " ++ reason

def status : Failure → Nat
  | .missingCredential | .invalidToken _ | .invalidSecret | .unknownPrincipal _ => 401
  | .insufficientRole => 403
  | .invalidDelegation _ => 400
  | .internal _ => 500

def code : Failure → String
  | .missingCredential => "MissingAuthenticationToken"
  | .invalidToken _ | .unknownPrincipal _ => "InvalidAuthenticationToken"
  | .invalidSecret | .invalidDelegation _ => "InvalidInput"
  | .insufficientRole => "InvalidRole"
  | .internal _ => "InternalServerError"

def title : Failure → String
  | .missingCredential => "Missing authentication token"
  | .invalidToken _ => "Invalid authentication token"
  | .invalidSecret => "Invalid client ID/secret"
  | .unknownPrincipal _ => "User profile not found"
  | .insufficientRole => "Invalid role"
  | .invalidDelegation _ => "Invalid delegation"
  | .internal _ => "Internal server error"

/-- What the caller is told about a failure. -/
def publicDetail : Failure → String
  | .missingCredential => "Provide a bearer token or a client ID/secret pair"
  | .invalidToken _ => "Token is invalid or expired"
  | .invalidSecret => "Invalid client ID/secret"
  | .unknownPrincipal _ => "Token subject is not a registered user"
  | .insufficientRole => "Caller holds none of the roles this operation accepts"
  | .invalidDelegation reason => reason
  | .internal _ => "Internal error"

end Failure

/-- The body of the response to a request that failed. -/
structure FailureEnvelope where
  kind : String
  title : String
  detail : String
  status : Nat
deriving DecidableEq

namespace FailureEnvelope

/-- Statuses are below this bound. -/
def statusBound : Nat := UInt16.size

def toJson (e : FailureEnvelope) : Value :=
  .object [("type", .text e.kind), ("title", .text e.title), ("detail", .text e.detail),
    ("status", .number e.status)]

def fields : List Field :=
  [.required "type" text, .required "title" text, .required "detail" text,
    .required "status" (natBelow statusBound)]

def decoder : Decoder FailureEnvelope := fun d => do
  let p ← record fields true d
  return {
    kind := ← p.required "type" text
    title := ← p.required "title" text
    detail := ← p.required "detail" text
    status := ← p.required "status" (natBelow statusBound) }

end FailureEnvelope

namespace Failure

def envelope (f : Failure) : FailureEnvelope :=
  ⟨"urn:dx:as:" ++ f.code, f.title, f.publicDetail, f.status⟩

/-- The response to a request that failed. One that may be tried again with another credential says
which scheme is understood. -/
def response (f : Failure) : Http.Response :=
  let r := Http.Response.json f.status f.envelope.toJson
  if f.status = 401 then r.withHeader "www-authenticate" "Bearer" else r

end Failure

/-- Demands that the caller holds at least one of the roles. -/
def IdentityContext.requireAny (c : IdentityContext) (roles : List Role) : Except Failure Unit :=
  if c.hasAnyRole roles then .ok () else .error .insufficientRole

/-- Holds the first failure that is recorded, and no later one. -/
structure FailureLatch where
  first : Option Failure
deriving DecidableEq

namespace FailureLatch

/-- The latch before anything is recorded. -/
def untripped : FailureLatch := ⟨none⟩

/-- Whether a failure has been recorded. -/
def isTripped (l : FailureLatch) : Bool := l.first.isSome

/-- Records a failure, unless one is recorded already; says whether this one was. -/
def trip (l : FailureLatch) (f : Failure) : FailureLatch × Bool :=
  match l.first with
  | none => (⟨some f⟩, true)
  | some _ => (l, false)

end FailureLatch

end Gatehouse
