import Gatehouse.Role
import Gatehouse.TextSet
import Gatehouse.Uuid
/-!
The resolved identity of a caller: who it is, which of the requested roles it holds and on which
resource servers, how it authenticated, and for whom it acts.
-/

namespace Gatehouse

/-- Given and family name, as the identity provider reports them. -/
structure DisplayName where
  first : String
  last : String
deriving DecidableEq

/-- How a caller authenticated. -/
inductive CredentialKind
  /-- With a bearer token of the identity provider. -/
  | bearerToken
  /-- With a client id and its secret. -/
  | clientCredentials
deriving DecidableEq, Repr

def CredentialKind.name : CredentialKind → String
  | .bearerToken => "bearer_token"
  | .clientCredentials => "client_credentials"

def CredentialKind.ofName? (s : String) : Option CredentialKind :=
  [.bearerToken, .clientCredentials].find? fun (k : CredentialKind) => k.name == s

/-- A map from roles to resource servers; a role without an entry maps to nothing. -/
abbrev RoleScope := PerRole (Option TextSet)

/-- The map without entries. -/
def RoleScope.empty : RoleScope := .const none

/-- The entries of the map in role order. -/
def RoleScope.entries (s : RoleScope) : List (Role × TextSet) :=
  Role.all.filterMap fun r => (s.get r).map (r, ·)

/-- Adds resource servers to the entry of a role, which is made if need be. -/
def RoleScope.extend (s : RoleScope) (r : Role) (urls : List String) : RoleScope :=
  s.set r (some (((s.get r).getD .empty).insertMany urls))

/-- The map of a list of entries, the last one of a role counting. -/
def RoleScope.ofEntries (l : List (Role × TextSet)) : RoleScope :=
  l.foldl (fun s (r, urls) => s.set r (some urls)) .empty

/-- An authenticated user with the roles resolved for one request. -/
structure Identity where
  user : Uuid
  /-- Absent for callers that authenticated with client credentials. -/
  displayName : Option DisplayName
  /-- The roles held, out of the requested ones. -/
  roles : RoleSet
  /-- The resource servers of each scoped role. -/
  scope : RoleScope
deriving DecidableEq

namespace Identity

/-- An identity without roles. -/
def fresh (user : Uuid) (displayName : Option DisplayName) : Identity :=
  ⟨user, displayName, .empty, .empty⟩

/-- Records a role that the user holds. Resource servers are kept for scoped roles only. -/
def grant (i : Identity) (role : Role) (urls : List String) : Identity :=
  { i with
    roles := i.roles.insert role
    scope := if role.isScoped then i.scope.extend role urls else i.scope }

/-- Whether the user holds a role. -/
def hasRole (i : Identity) (role : Role) : Bool := i.roles.contains role

end Identity

/-- Attached to a caller who acts under a delegation. -/
structure DelegationContext where
  /-- The delegation that the caller asserted. -/
  id : Uuid
  /-- The user acted for. -/
  delegator : Uuid
  /-- The role of the delegator that the caller acts with. -/
  role : Role
  /-- The resource server that the delegation is limited to. -/
  url : String
deriving DecidableEq

/-- Attached to a caller who names a provider to act for. -/
structure ProviderScope where
  provider : Uuid
  /-- The trust domain on which the caller was found to act for the provider. -/
  trustDomain : String
deriving DecidableEq

/-- All that is known about the caller of one request. -/
structure IdentityContext where
  identity : Identity
  credential : CredentialKind
  delegation : Option DelegationContext
  providerScope : Option ProviderScope
deriving DecidableEq

namespace IdentityContext

/-- Whether the caller holds at least one of the roles. -/
def hasAnyRole (c : IdentityContext) (roles : List Role) : Bool := roles.any c.identity.hasRole

/-- The user to act for: the delegator, else the provider, else the caller. -/
def effectiveUser (c : IdentityContext) : Uuid :=
  match c.delegation, c.providerScope with
  | some d, _ => d.delegator
  | none, some p => p.provider
  | none, none => c.identity.user

end IdentityContext

end Gatehouse
