import Gatehouse.Digest.Sha256
import Gatehouse.Encoding.Hex
import Gatehouse.Failure
import Gatehouse.Identity.Json
/-!
The audit trail. An event says what became of a request; it never holds a secret or a token, but at
most the fingerprint of a token. Fields that do not apply are left out of the written event.
-/

namespace Gatehouse

open Json

/-- The kinds of audit events. -/
inductive AuditKind
  /-- A request was given an identity. -/
  | succeeded
  /-- A request was not given an identity. -/
  | failed
  /-- A delegation was found valid for the caller. -/
  | delegationAttached
  /-- A caller was found to act for a provider. -/
  | providerScopeAttached
deriving DecidableEq, Repr

def AuditKind.name : AuditKind → String
  | .succeeded => "auth.succeeded"
  | .failed => "auth.failed"
  | .delegationAttached => "delegation.attached"
  | .providerScopeAttached => "provider_scope.attached"

/-- An audit event. -/
structure AuditEvent where
  kind : AuditKind
  path : Option String := none
  user : Option Uuid := none
  credential : Option CredentialKind := none
  fingerprint : Option String := none
  roles : Option (List Role) := none
  delegation : Option Uuid := none
  onBehalfOf : Option Uuid := none
  code : Option String := none
  reason : Option String := none
deriving DecidableEq

/-- The fingerprint of a token: the first sixteen digits of its digest. -/
def fingerprint (token : String) : String :=
  String.ofList ((Encoding.hex (Digest.sha256 token.toUTF8.toList)).take 16)

namespace AuditEvent

/-- A request was given an identity. -/
def succeeded (c : IdentityContext) (fingerprint : Option String) (path : String) : AuditEvent where
  kind := .succeeded
  path := some path
  user := some c.identity.user
  credential := some c.credential
  fingerprint := fingerprint
  roles := some c.identity.roles.toList

/-- A request was not given an identity. -/
def failed (f : Failure) (credential : Option CredentialKind) (fingerprint : Option String)
    (path : String) : AuditEvent where
  kind := .failed
  path := some path
  credential := credential
  fingerprint := fingerprint
  code := some f.code
  reason := some f.message

/-- A delegation was found valid for the caller. -/
def delegationAttached (user : Uuid) (c : DelegationContext) : AuditEvent where
  kind := .delegationAttached
  user := some user
  roles := some [c.role]
  delegation := some c.id
  onBehalfOf := some c.delegator

/-- A caller was found to act for a provider. -/
def providerScopeAttached (user : Uuid) (s : ProviderScope) : AuditEvent where
  kind := .providerScopeAttached
  user := some user
  onBehalfOf := some s.provider

def toJson (e : AuditEvent) : Value :=
  .object ([("event", .text e.kind.name)] ++
    Value.member? "path" (e.path.map .text) ++
    Value.member? "user_id" (e.user.map (·.toJson)) ++
    Value.member? "credential" (e.credential.map (·.toJson)) ++
    Value.member? "token_fingerprint" (e.fingerprint.map .text) ++
    Value.member? "roles" (e.roles.map fun l => .array (l.map Role.toJson)) ++
    Value.member? "delegation_id" (e.delegation.map (·.toJson)) ++
    Value.member? "on_behalf_of" (e.onBehalfOf.map (·.toJson)) ++
    Value.member? "code" (e.code.map .text) ++
    Value.member? "reason" (e.reason.map .text))

def line (e : AuditEvent) : String := e.toJson.render

end AuditEvent

end Gatehouse
