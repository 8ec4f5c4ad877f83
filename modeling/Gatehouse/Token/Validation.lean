import Gatehouse.Token.Claims
import Gatehouse.Token.Header
/-!
What is checked of a token. A validation starts from the checks that every token of an algorithm
gets and is then told about the issuer, the audiences and the leeway. A claim counts as demanded
only when it is required by name: a demand on the content of a claim is not held against a token
that lacks it.
-/

namespace Gatehouse.Token

/-- A claim that a token may be required to have. -/
inductive ClaimName
  | subject | expiry | start | issuer | audience
deriving DecidableEq, Repr

def ClaimName.text : ClaimName → String
  | .subject => "sub"
  | .expiry => "exp"
  | .start => "nbf"
  | .issuer => "iss"
  | .audience => "aud"

def Claims.carry (c : Claims) : ClaimName → Bool
  | .subject | .expiry => true
  | .start => c.start.isSome
  | .issuer => c.issuers.isSome
  | .audience => c.audiences.isSome

/-- What is checked of a token. -/
structure Validation where
  algorithms : List Algorithm
  required : List ClaimName
  /-- How many seconds the clocks of issuer and server may be apart. -/
  leeway : Nat
  checksExpiry : Bool
  checksStart : Bool
  checksAudience : Bool
  /-- The issuers that are accepted, if it matters. -/
  issuers : Option (List String)
  /-- The audiences that are accepted. -/
  audiences : List String
deriving DecidableEq

namespace Validation

/-- What is checked of every token of an algorithm. -/
def ofAlgorithm (a : Algorithm) : Validation where
  algorithms := [a]
  required := [.expiry]
  leeway := 60
  checksExpiry := true
  checksStart := false
  checksAudience := true
  issuers := none
  audiences := []

/-- Whether names of which one is accepted are claimed, if any are claimed. -/
def agrees (accepted : List String) (claimed : Option (List String)) : Bool :=
  claimed.all fun names => accepted.any names.contains

/-- Checks claims at a second. -/
def check (v : Validation) (now : Nat) (c : Claims) : Except TokenFault Unit :=
  match v.required.find? (!c.carry ·) with
  | some name => .error (.missingRequiredClaim name.text)
  | none =>
    if v.checksExpiry && c.expiry < now - v.leeway then .error .expiredSignature
    else if v.checksStart && c.start.any (now + v.leeway < ·) then .error .immatureSignature
    else if !v.issuers.all (agrees · c.issuers) then .error .invalidIssuer
    else if v.checksAudience && !agrees v.audiences c.audiences then .error .invalidAudience
    else .ok ()

end Validation

/-- What a provider demands of its tokens. -/
structure Demands where
  issuer : String
  /-- The audiences that are accepted; every audience is when there are none. -/
  audiences : List String
  leeway : Nat
deriving DecidableEq

/-- What is checked of a token with a header to meet demands. -/
def Demands.validation (d : Demands) (header : Header) : Validation :=
  let v := {
    Validation.ofAlgorithm header.algorithm.judgedAs with
    leeway := d.leeway
    issuers := some [d.issuer]
    required := [.expiry, .issuer, .subject] }
  if d.audiences.isEmpty then { v with checksAudience := false }
  else { v with audiences := d.audiences }

end Gatehouse.Token
