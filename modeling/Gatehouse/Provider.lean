/-!
What the identity provider answers. Nobody else looks into a token: signature, issuer, audience and
expiry are the provider's to check, and so is the lookup of the claims of a subject.
-/

namespace Gatehouse

/-- Why a signed token is not accepted. -/
inductive TokenFault
  | invalidToken
  | invalidSignature
  | invalidEcdsaKey
  | invalidAlgorithmName
  | invalidKeyFormat
  | missingRequiredClaim (claim : String)
  | expiredSignature
  | invalidIssuer
  | invalidAudience
  | invalidSubject
  | immatureSignature
  | invalidAlgorithm
  | missingAlgorithm
  /-- A part is not base 64. -/
  | base64
  /-- A part is not the JSON that it should be. -/
  | json
  /-- A part is not text. -/
  | utf8
deriving DecidableEq, Repr

namespace TokenFault

def name : TokenFault → String
  | .invalidToken => "InvalidToken"
  | .invalidSignature => "InvalidSignature"
  | .invalidEcdsaKey => "InvalidEcdsaKey"
  | .invalidAlgorithmName => "InvalidAlgorithmName"
  | .invalidKeyFormat => "InvalidKeyFormat"
  | .missingRequiredClaim _ => "MissingRequiredClaim"
  | .expiredSignature => "ExpiredSignature"
  | .invalidIssuer => "InvalidIssuer"
  | .invalidAudience => "InvalidAudience"
  | .invalidSubject => "InvalidSubject"
  | .immatureSignature => "ImmatureSignature"
  | .invalidAlgorithm => "InvalidAlgorithm"
  | .missingAlgorithm => "MissingAlgorithm"
  | .base64 => "Base64"
  | .json => "Json"
  | .utf8 => "Utf8"

/-- The wording of a fault. What exactly is wrong with the form of a part is not said. -/
def message : TokenFault → String
  | .missingRequiredClaim claim => "Missing required claim: " ++ claim
  | .base64 => "Base64 error"
  | .json => "JSON error"
  | .utf8 => "UTF-8 error"
  | fault => fault.name

/-- The fault with a name, a missing claim being named in addition. -/
def ofName? (name claim : String) : Option TokenFault :=
  [.invalidToken, .invalidSignature, .invalidEcdsaKey, .invalidAlgorithmName, .invalidKeyFormat,
    .missingRequiredClaim claim, .expiredSignature, .invalidIssuer, .invalidAudience,
    .invalidSubject, .immatureSignature, .invalidAlgorithm, .missingAlgorithm, .base64, .json,
    .utf8].find? fun (f : TokenFault) => f.name == name

end TokenFault

/-- Why a request to the identity provider did not succeed. -/
structure FetchFault where
  /-- The status that was answered, when it is one of refusal. -/
  status : Option Nat := none
  /-- The answer is not what was asked for. -/
  undecodable : Bool := false
  /-- There was no answer in time. -/
  late : Bool := false
deriving DecidableEq, Repr

/-- Why the identity provider does not vouch for a token. -/
inductive ProviderFault
  /-- The token itself is not acceptable. -/
  | rejected (fault : TokenFault)
  /-- The token does not say which key it is signed with. -/
  | missingKeyId
  /-- The provider has no usable key of that name. -/
  | unknownKeyId (id : String)
  /-- The provider could not be asked. -/
  | fetch (fault : FetchFault)
  /-- The provider answered with something that cannot be used. -/
  | invalidResponse (detail : String)
  /-- The provider did not answer within the bound of the call. -/
  | timedOut
deriving DecidableEq, Repr

def ProviderFault.message : ProviderFault → String
  | .rejected fault => "token rejected: " ++ fault.message
  | .missingKeyId => "JWT missing 'kid' field in header"
  | .unknownKeyId id => "unknown key ID: " ++ id
  | .fetch _ => "identity provider request failed"
  | .invalidResponse detail => "identity provider response invalid: " ++ detail
  | .timedOut => "identity provider timed out"

/-- A token that the provider vouches for. -/
structure ValidatedToken where
  subject : String
  /-- The second at which the token expires. -/
  expiry : Nat
  /-- The token itself, which the lookup of claims presents. -/
  raw : String
deriving DecidableEq, Repr

/-- What the provider knows about a subject. -/
structure SubjectClaims where
  subject : String
  givenName : String
  familyName : String
deriving DecidableEq, Repr

end Gatehouse
