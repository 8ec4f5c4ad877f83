import Gatehouse.Role
import Gatehouse.Uuid
/-!
What storage holds about clients and delegations.
-/

namespace Gatehouse

/-- How a stored secret was hashed. -/
inductive SecretAlgorithm
  | argon2id
deriving DecidableEq, Repr

def SecretAlgorithm.tag : SecretAlgorithm → String
  | .argon2id => "argon2id"

/-- The algorithm with exactly this tag. -/
def SecretAlgorithm.ofTag? (s : String) : Option SecretAlgorithm :=
  if s = "argon2id" then some .argon2id else none

/-- A client id with the hash of its secret, and the user it authenticates as. -/
structure ClientCredential where
  client : Uuid
  owner : Uuid
  secretHash : String
  algorithm : SecretAlgorithm
deriving DecidableEq

/-- The form of a credential that may be shown: the hash is left out. -/
def ClientCredential.redacted (c : ClientCredential) : String :=
  "ClientCredential \x7b client_id: " ++ c.client.toText ++ ", owner_user_id: " ++ c.owner.toText ++
    ", secret_hash: \"<redacted>\", algorithm: Argon2id \x7d"

/-- The delegate, asserting this grant, may act with the delegator's role on one resource server. -/
structure DelegationGrant where
  id : Uuid
  delegator : Uuid
  delegate : Uuid
  role : Role
  url : String
deriving DecidableEq

end Gatehouse
