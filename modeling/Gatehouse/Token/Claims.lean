import Gatehouse.Json.Bytes
import Gatehouse.Provider.Json
/-!
What a token claims about its bearer. Subject and expiry have to be there; the other claims count
as missing when they make no sense.
-/

namespace Gatehouse.Token

open Json

/-- The claims of a token. The start is none when the claim is missing or is no natural number,
issuers and audiences when it is missing or is neither a text nor a list of texts. -/
structure Claims where
  subject : String
  /-- The second at which the token expires. -/
  expiry : Nat
  /-- The second before which the token is not valid yet. -/
  start : Option Nat
  issuers : Option (List String)
  audiences : Option (List String)
deriving DecidableEq, Repr

namespace Claims

/-- How deep the value of a claim may be nested. -/
def claimDepth : Nat := 126

/-- Reads a text or a list of texts; every other value counts as none. -/
def texts? : Decoder (Option (List String))
  | .number _ => .ok none
  | d => do
    d.keep claimDepth
    match d with
    | .text (.ok s) _ => return some [s]
    | d => return (list text d).toOption

/-- Reads a point in time, which must be a plain value or empty; everything but a natural number
counts as none. -/
def time? : Decoder (Option Nat)
  | .array (_ :: _) _ | .object (_ :: _) _ => .error .malformed
  | .number n => .ok (natBelow ValidatedToken.expiryBound (.number n)).toOption
  | d => do
    d.keep claimDepth
    return none

/-- The claims that are looked at. -/
def fields : List Field :=
  [.required "sub" text, .required "exp" (natBelow ValidatedToken.expiryBound),
    .defaulted "nbf" time?, .defaulted "iss" texts?, .defaulted "aud" texts?]

/-- Reads claims, which are written as an object. -/
def decoder : Decoder Claims
  | .object ms ending => do
    let p ← record fields true (.object ms ending)
    return {
      subject := ← p.required "sub" text
      expiry := ← p.required "exp" (natBelow ValidatedToken.expiryBound)
      start := ← p.withDefault "nbf" time? none
      issuers := ← p.withDefault "iss" texts? none
      audiences := ← p.withDefault "aud" texts? none }
  | d => .error d.mismatch

end Claims

end Gatehouse.Token
