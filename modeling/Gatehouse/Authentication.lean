import Gatehouse.Stage
/-!
Finding out who the caller is. A bearer token is the identity provider's to judge; a client id and
its secret are checked against the stored hash. An unknown client id costs the caller as much as a
wrong secret and is refused in the same words.
-/

namespace Gatehouse

/-- A caller that is known, before its roles are. -/
structure Principal where
  user : Uuid
  /-- Known for callers with a bearer token only. -/
  displayName : Option DisplayName
  credential : CredentialKind
deriving DecidableEq

namespace Authentication

/-- The principal that a validated token and the claims of its subject stand for. The two have to
agree on the subject, and the subject has to be the id of a user. -/
def principalOf (validated : ValidatedToken) (claims : SubjectClaims) : Except Failure Principal :=
  if claims.subject ≠ validated.subject then
    .error (.invalidToken
      ("claims subject " ++ claims.subject ++ " does not match token subject " ++
      validated.subject))
  else match Uuid.parse? validated.subject with
    | none => .error (.unknownPrincipal validated.subject)
    | some user => .ok ⟨user, some ⟨claims.givenName, claims.familyName⟩, .bearerToken⟩

/-- Authenticates the bearer of a token. -/
def byToken (token : String) : Stage Principal := do
  let validated ← Stage.ofProvider (.validate token) fun fault => .invalidToken fault.message
  let claims ← Stage.ofProvider (.claims validated) fun fault =>
    .invalidToken ("claims lookup: " ++ fault.message)
  Stage.ofExcept (principalOf validated claims)

/-- Looks a client up. An id that is no identifier at all belongs to nobody. -/
def clientRecord (id : String) : Stage (Option ClientCredential) :=
  match Uuid.parse? id with
  | some client => Stage.ofStore (.client client)
  | none => pure none

/-- The owner of a client credential, when the secret matches its hash. -/
def ownerOf (credential : Option ClientCredential) (secret : String) : Except Refusal Uuid :=
  let (isMatch, unusable) := Secret.verifyStored secret (credential.map (·.secretHash))
  match isMatch, credential with
  | true, some c => .ok c.owner
  | _, _ => .error ⟨.invalidSecret, unusable⟩

/-- Authenticates the owner of a client credential. -/
def byClient (id secret : String) : Stage Principal := do
  let credential ← clientRecord id
  let owner ← (ownerOf credential secret : Except Refusal Uuid)
  return ⟨owner, none, .clientCredentials⟩

end Authentication

end Gatehouse
