import Gatehouse.Authentication
import Gatehouse.Http.Header
import Gatehouse.Text.Blank
/-!
What a known caller may do: the roles it holds out of the requested ones, and for whom it acts. The
administrator of the whole platform is named by the configuration, and storage has no say in it.
-/

namespace Gatehouse

/-- The settings of the server that decide what a caller may do. -/
structure Policy where
  /-- The user who holds the role of the platform administrator, if anybody does. -/
  cosAdmin : Option Uuid
  /-- The resource server on which a caller must be a delegate to act for a provider. -/
  trustDomain : String
deriving DecidableEq

namespace Authorization

/-! ## Roles -/

/-- Whether a user holds the role of the platform administrator in a request for some roles. -/
def isCosAdmin (policy : Policy) (user : Uuid) (requested : RoleSet) : Bool :=
  requested.contains .cosAdmin && policy.cosAdmin == some user

/-- The identity of a user before storage is asked for its roles. -/
def initialIdentity (policy : Policy) (principal : Principal) (requested : RoleSet) : Identity :=
  let identity := Identity.fresh principal.user principal.displayName
  if isCosAdmin policy principal.user requested then identity.grant .cosAdmin [] else identity

/-- Whether storage has to be asked about some roles. -/
def needsStorage (requested : RoleSet) : Bool := requested.toList.any (· != .cosAdmin)

/-- Adds what storage granted to an identity. Storage can neither widen the request nor make
somebody the platform administrator. -/
def addGranted (requested : RoleSet) (identity : Identity) (granted : RoleScope) : Identity :=
  granted.entries.foldl
    (fun i (role, urls) =>
      if role == .cosAdmin || !requested.contains role then i else i.grant role urls.toList)
    identity

/-- Finds out which of the requested roles a caller holds, with one call to storage at most. -/
def resolveRoles (policy : Policy) (principal : Principal) (requested : RoleSet) :
    Stage Identity := do
  let identity := initialIdentity policy principal requested
  if needsStorage requested then
    let granted ← Stage.ofStore (.roles principal.user requested)
    return addGranted requested identity granted
  else return identity

/-! ## Acting for somebody else -/

/-- Why a caller may not act for the user it names. These sentences are shown to the caller, so
none of them quotes anything. -/
inductive ActingFault
  | bothHeaders
  | notADelegate
  | noSuchDelegation
  | notForProvider
  | delegationIdNotText
  | delegationIdBlank
  | delegationIdNotUuid
  | providerIdNotText
  | providerIdBlank
  | providerIdNotUuid
deriving DecidableEq, Repr

def ActingFault.message : ActingFault → String
  | .bothHeaders => "X-Delegation-Id and X-Provider-Id cannot be combined"
  | .notADelegate => "Caller does not hold the DELEGATE role"
  | .noSuchDelegation => "No delegation with this id for the caller"
  | .notForProvider => "Caller may not act for this provider"
  | .delegationIdNotText => "Delegation id is not valid text"
  | .delegationIdBlank => "Delegation id is blank"
  | .delegationIdNotUuid => "Delegation id is not a UUID"
  | .providerIdNotText => "Provider id is not valid text"
  | .providerIdBlank => "Provider id is blank"
  | .providerIdNotUuid => "Provider id is not a UUID"

/-- The failure that a caller is told of. -/
def ActingFault.failure (fault : ActingFault) : Failure := .invalidDelegation fault.message

def ActingFault.refuse {α : Type} (fault : ActingFault) : Stage α := Stage.refuse fault.failure

/-- The complaints about a header that should hold an identifier. -/
structure IdComplaints where
  notText : ActingFault
  blank : ActingFault
  notUuid : ActingFault

def delegationId : IdComplaints := ⟨.delegationIdNotText, .delegationIdBlank, .delegationIdNotUuid⟩

def providerId : IdComplaints := ⟨.providerIdNotText, .providerIdBlank, .providerIdNotUuid⟩

/-- The identifier in the value of a header, blank characters around it apart. -/
def IdComplaints.read (complain : IdComplaints) (value : List UInt8) : Except ActingFault Uuid :=
  match Http.textOf? value with
  | none => .error complain.notText
  | some s =>
    if (Text.trim s).isEmpty then .error complain.blank
    else match Uuid.parse? (Text.trim s) with
      | none => .error complain.notUuid
      | some id => .ok id

/-- Yields the identifier in the value of a header, or refuses. -/
def idOf (complain : IdComplaints) (value : List UInt8) : Stage Uuid :=
  Stage.ofExcept ((complain.read value).mapError (·.failure))

/-- Finds the delegation that a caller asserts. The caller has to hold the role of a delegate, and
the delegation has to have been given to it. -/
def attachDelegation (identity : Identity) (value : List UInt8) : Stage DelegationContext := do
  if !identity.hasRole .delegate then ActingFault.notADelegate.refuse
  let id ← idOf delegationId value
  let grant : Option DelegationGrant ← Stage.ofStore (.grant id identity.user)
  match grant with
  | some grant => return ⟨id, grant.delegator, grant.role, grant.url⟩
  | none => ActingFault.noSuchDelegation.refuse

/-- Finds out whether a caller may act for the provider that it names. -/
def attachProvider (policy : Policy) (identity : Identity) (value : List UInt8) :
    Stage ProviderScope := do
  let provider ← idOf providerId value
  let grant : Option DelegationGrant ←
    Stage.ofStore (.providerGrant identity.user provider policy.trustDomain)
  match grant with
  | some _ => return ⟨provider, policy.trustDomain⟩
  | none => ActingFault.notForProvider.refuse

/-- The outcome of a stage that runs when its header is present. -/
def whenPresent {α : Type} (value : Option (List UInt8)) (stage : List UInt8 → Stage α) :
    Exchange (StageOutcome α) :=
  match value with
  | none => pure .skipped
  | some value => do
    match ← (stage value).run with
    | .ok a => return .attached a
    | .error refusal => return .failed refusal.failure

/-- Follows the delegation header of a request. -/
def resolveDelegation (identity : Identity) (value : Option (List UInt8)) :
    Exchange (StageOutcome DelegationContext) :=
  whenPresent value (attachDelegation identity)

/-- Follows the provider header of a request. -/
def resolveProvider (policy : Policy) (identity : Identity) (value : Option (List UInt8)) :
    Exchange (StageOutcome ProviderScope) :=
  whenPresent value (attachProvider policy identity)

end Authorization

end Gatehouse
