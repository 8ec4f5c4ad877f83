import Gatehouse.Json.Decode
import Gatehouse.Json.Value
import Gatehouse.Provider
/-!
The JSON form of what the identity provider answers.
-/

namespace Gatehouse

open Json

/-- Points in time are below this bound. -/
def ValidatedToken.expiryBound : Nat := UInt64.size

/-- The JSON form of a validated token, which leaves the token itself out. -/
def ValidatedToken.toJson (t : ValidatedToken) : Value :=
  .object [("subject", .text t.subject), ("expiry", .number t.expiry)]

def ValidatedToken.fields : List Field :=
  [.required "subject" text, .required "expiry" (natBelow expiryBound)]

/-- Reads a validated token, which then lacks the token itself. -/
def ValidatedToken.decoder : Decoder ValidatedToken := fun d => do
  let p ← record fields true d
  return {
    subject := ← p.required "subject" text
    expiry := ← p.required "expiry" (natBelow expiryBound)
    raw := "" }

def SubjectClaims.toJson (c : SubjectClaims) : Value :=
  .object [("sub", .text c.subject), ("given_name", .text c.givenName),
    ("family_name", .text c.familyName)]

def SubjectClaims.fields : List Field :=
  [.required "sub" text, .defaulted "given_name" text, .defaulted "family_name" text]

/-- Reads the claims of a subject; names that are missing are empty. -/
def SubjectClaims.decoder : Decoder SubjectClaims := fun d => do
  let p ← record fields true d
  return {
    subject := ← p.required "sub" text
    givenName := ← p.withDefault "given_name" text ""
    familyName := ← p.withDefault "family_name" text "" }

end Gatehouse
