import Gatehouse.Audit
import Gatehouse.Authorization
import Gatehouse.Credential
/-!
From a request to the identity of its caller: credential, principal, roles, and then the user acted
for. The stages run strictly in this order and the first failure stops the run. What was attached is
recorded in the audit trail when all stages are done, and the result of the run after that.
-/

namespace Gatehouse

/-- A request, as far as its authentication goes. -/
structure Request where
  headers : Http.Headers
  path : String
  /-- The roles that the endpoint is interested in. -/
  requested : RoleSet
  /-- Whether the endpoint may be called without any credential. -/
  bootstrap : Bool
deriving DecidableEq

/-- A computation of stages that records events. What is recorded stays when the request is refused
afterwards. -/
abbrev Recorded (α : Type) := ExceptT Refusal (StateT (List AuditEvent) Exchange) α

namespace Recorded

/-- A stage that records nothing. -/
def ofStage {α : Type} (s : Stage α) : Recorded α := ExceptT.mk (StateT.lift s.run)

def record (e : AuditEvent) : Recorded Unit := modify (· ++ [e])

end Recorded

/-- The end of a run: what the caller is given, and what is recorded about it. -/
structure Verdict where
  /-- Nobody is identified when a bootstrap endpoint is called without a credential. -/
  result : Except Failure (Option IdentityContext)
  audit : List AuditEvent
  /-- Why a stored hash could not be compared with the secret. -/
  unusable : Option Secret.Unusable

namespace Admission

open Authorization

def delegationHeader : String := "x-delegation-id"

def providerHeader : String := "x-provider-id"

/-- Finds out who the caller is; nobody, on a bootstrap endpoint, when there is no credential. -/
def authenticate (credential : Credential) (bootstrap : Bool) : Stage (Option Principal) :=
  match credential with
  | .bearer token => some <$> Authentication.byToken token
  | .client id secret => some <$> Authentication.byClient id secret
  | .absent => if bootstrap then pure none else Stage.refuse .missingCredential

/-- Finds out for whom the caller acts. The two headers exclude each other. -/
def attach (policy : Policy) (identity : Identity) (headers : Http.Headers) :
    Stage (Option DelegationContext × Option ProviderScope) := do
  let delegationValue := headers.first? delegationHeader
  let providerValue := headers.first? providerHeader
  if delegationValue.isSome && providerValue.isSome then ActingFault.bothHeaders.refuse
  let delegation ← Stage.ofExcept (← resolveDelegation identity delegationValue).toExcept
  match delegation with
  | some d => return (some d, none)
  | none =>
    let scope ← Stage.ofExcept (← resolveProvider policy identity providerValue).toExcept
    return (none, scope)

/-- Resolves the roles of a known caller and the user it acts for. -/
def authorize (policy : Policy) (request : Request) (principal : Principal) :
    Stage IdentityContext := do
  let identity ← resolveRoles policy principal request.requested
  let (delegation, scope) ← attach policy identity request.headers
  return ⟨identity, principal.credential, delegation, scope⟩

/-- Records what a caller was found to act under. -/
def recordAttachments (c : IdentityContext) : Recorded Unit := do
  if let some d := c.delegation then
    Recorded.record (.delegationAttached c.identity.user d)
  if let some s := c.providerScope then
    Recorded.record (.providerScopeAttached c.identity.user s)

/-- All stages in order. -/
def stages (policy : Policy) (request : Request) (credential : Credential) :
    Recorded (Option IdentityContext) := do
  let principal ← Recorded.ofStage (authenticate credential request.bootstrap)
  match principal with
  | none => return none
  | some principal =>
    let c ← Recorded.ofStage (authorize policy request principal)
    recordAttachments c
    return some c

def fingerprintOf : Credential → Option String
  | .bearer token => some (fingerprint token)
  | _ => none

/-- Ends a run, of which the result is recorded last. -/
def conclude (credential : Credential) (path : String) (trail : List AuditEvent) :
    Except Refusal (Option IdentityContext) → Verdict
  | .error refusal =>
    { result := .error refusal.failure
      audit := trail ++
        [.failed refusal.failure credential.kind? (fingerprintOf credential) path]
      unusable := refusal.unusable }
  | .ok none => ⟨.ok none, trail, none⟩
  | .ok (some c) =>
    ⟨.ok (some c), trail ++ [.succeeded c (fingerprintOf credential) path], none⟩

def run (policy : Policy) (request : Request) : Exchange Verdict := do
  let credential := Credential.ofHeaders request.headers
  let (outcome, trail) ← (stages policy request credential).run.run []
  return conclude credential request.path trail outcome

end Admission

end Gatehouse
