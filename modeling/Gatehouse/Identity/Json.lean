import Gatehouse.Identity
import Gatehouse.Json.Decode
import Gatehouse.Json.Value
/-!
The JSON form of identities. Fields are written in a fixed order and left out when they are absent;
roles and resource servers are written in ascending order.
-/

namespace Gatehouse

open Json

def Uuid.decoder : Decoder Uuid := textWith Uuid.parse?

def Uuid.toJson (u : Uuid) : Value := .text u.toText

def Role.toJson (r : Role) : Value := .text r.name

def Role.decoder : Decoder Role := oneOf Role.ofName?

def RoleSet.toJson (s : RoleSet) : Value := .array (s.toList.map Role.toJson)

def RoleSet.decoder : Decoder RoleSet := fun d => (list Role.decoder d).map RoleSet.ofList

def TextSet.toJson (s : TextSet) : Value := .texts s.toList

def TextSet.decoder : Decoder TextSet := fun d => (list text d).map TextSet.ofList

def RoleScope.toJson (s : RoleScope) : Value :=
  .object (s.entries.map fun (r, urls) => (r.name, urls.toJson))

def RoleScope.decoder : Decoder RoleScope := fun d =>
  (mapEntries Role.ofName? TextSet.decoder d).map RoleScope.ofEntries

def CredentialKind.toJson (k : CredentialKind) : Value := .text k.name

def CredentialKind.decoder : Decoder CredentialKind := oneOf CredentialKind.ofName?

def DisplayName.toJson (n : DisplayName) : Value :=
  .object [("first", .text n.first), ("last", .text n.last)]

def DisplayName.fields : List Field := [.required "first" text, .required "last" text]

def DisplayName.decoder : Decoder DisplayName := fun d => do
  let p ← record fields true d
  return { first := ← p.required "first" text, last := ← p.required "last" text }

def Identity.toJson (i : Identity) : Value :=
  .object ([("user_id", i.user.toJson)] ++
    Value.member? "display_name" (i.displayName.map (·.toJson)) ++
    [("roles", i.roles.toJson), ("role_scope", i.scope.toJson)])

def Identity.fields : List Field :=
  [.required "user_id" Uuid.decoder, .optional "display_name" DisplayName.decoder,
    .required "roles" RoleSet.decoder, .required "role_scope" RoleScope.decoder]

def Identity.decoder : Decoder Identity := fun d => do
  let p ← record fields true d
  return {
    user := ← p.required "user_id" Uuid.decoder
    displayName := ← p.optional "display_name" DisplayName.decoder
    roles := ← p.required "roles" RoleSet.decoder
    scope := ← p.required "role_scope" RoleScope.decoder }

def DelegationContext.toJson (c : DelegationContext) : Value :=
  .object [("delegation_id", c.id.toJson), ("delegator_user_id", c.delegator.toJson),
    ("role", c.role.toJson), ("resource_server_url", .text c.url)]

def DelegationContext.fields : List Field :=
  [.required "delegation_id" Uuid.decoder, .required "delegator_user_id" Uuid.decoder,
    .required "role" Role.decoder, .required "resource_server_url" text]

def DelegationContext.decoder : Decoder DelegationContext := fun d => do
  let p ← record fields true d
  return {
    id := ← p.required "delegation_id" Uuid.decoder
    delegator := ← p.required "delegator_user_id" Uuid.decoder
    role := ← p.required "role" Role.decoder
    url := ← p.required "resource_server_url" text }

def ProviderScope.toJson (s : ProviderScope) : Value :=
  .object [("provider_id", s.provider.toJson), ("trust_domain", .text s.trustDomain)]

def ProviderScope.fields : List Field :=
  [.required "provider_id" Uuid.decoder, .required "trust_domain" text]

def ProviderScope.decoder : Decoder ProviderScope := fun d => do
  let p ← record fields true d
  return {
    provider := ← p.required "provider_id" Uuid.decoder
    trustDomain := ← p.required "trust_domain" text }

def IdentityContext.toJson (c : IdentityContext) : Value :=
  .object ([("identity", c.identity.toJson), ("credential", c.credential.toJson)] ++
    Value.member? "delegation" (c.delegation.map (·.toJson)) ++
    Value.member? "provider_scope" (c.providerScope.map (·.toJson)))

def IdentityContext.fields : List Field :=
  [.required "identity" Identity.decoder, .required "credential" CredentialKind.decoder,
    .optional "delegation" DelegationContext.decoder,
    .optional "provider_scope" ProviderScope.decoder]

def IdentityContext.decoder : Decoder IdentityContext := fun d => do
  let p ← record fields true d
  return {
    identity := ← p.required "identity" Identity.decoder
    credential := ← p.required "credential" CredentialKind.decoder
    delegation := ← p.optional "delegation" DelegationContext.decoder
    providerScope := ← p.optional "provider_scope" ProviderScope.decoder }

end Gatehouse
