import Gatehouse.Identity.Json
import Gatehouse.Record
/-!
The JSON form of stored records.
-/

namespace Gatehouse

open Json

def SecretAlgorithm.toJson (a : SecretAlgorithm) : Value := .text a.tag

def SecretAlgorithm.decoder : Decoder SecretAlgorithm := oneOf SecretAlgorithm.ofTag?

def DelegationGrant.toJson (g : DelegationGrant) : Value :=
  .object [("delegation_id", g.id.toJson), ("delegator_user_id", g.delegator.toJson),
    ("delegate_user_id", g.delegate.toJson), ("role", g.role.toJson),
    ("resource_server_url", .text g.url)]

def DelegationGrant.fields : List Field :=
  [.required "delegation_id" Uuid.decoder, .required "delegator_user_id" Uuid.decoder,
    .required "delegate_user_id" Uuid.decoder, .required "role" Role.decoder,
    .required "resource_server_url" text]

def DelegationGrant.decoder : Decoder DelegationGrant := fun d => do
  let p ← record fields true d
  return {
    id := ← p.required "delegation_id" Uuid.decoder
    delegator := ← p.required "delegator_user_id" Uuid.decoder
    delegate := ← p.required "delegate_user_id" Uuid.decoder
    role := ← p.required "role" Role.decoder
    url := ← p.required "resource_server_url" text }

/-- The JSON form of a client credential, the hash included. -/
def ClientCredential.toJson (c : ClientCredential) : Value :=
  .object [("client_id", c.client.toJson), ("owner_user_id", c.owner.toJson),
    ("secret_hash", .text c.secretHash), ("algorithm", c.algorithm.toJson)]

def ClientCredential.fields : List Field :=
  [.required "client_id" Uuid.decoder, .required "owner_user_id" Uuid.decoder,
    .required "secret_hash" text, .required "algorithm" SecretAlgorithm.decoder]

def ClientCredential.decoder : Decoder ClientCredential := fun d => do
  let p ← record fields true d
  return {
    client := ← p.required "client_id" Uuid.decoder
    owner := ← p.required "owner_user_id" Uuid.decoder
    secretHash := ← p.required "secret_hash" text
    algorithm := ← p.required "algorithm" SecretAlgorithm.decoder }

end Gatehouse
