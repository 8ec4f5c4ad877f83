import Gatehouse.Http.Header
import Gatehouse.Identity
import Gatehouse.Text.Blank
import Gatehouse.Text.Escaped
/-!
What a caller presents to show who it is. A well-formed bearer header wins; a malformed one counts
as absent, so that it never stands in the way of a client id and its secret.
-/

namespace Gatehouse

/-- The credential of a request. -/
inductive Credential
  /-- A token of the identity provider. -/
  | bearer (token : String)
  /-- A client id and the secret that goes with it. -/
  | client (id secret : String)
  /-- Nothing that can be used. -/
  | absent
deriving DecidableEq

namespace Credential

open Http

def authorizationHeader : String := "authorization"

def clientIdHeader : String := "x-client-id"

def clientSecretHeader : String := "x-client-secret"

/-- The token of a bearer header: two parts with one space between them, the scheme in any case and
the token not empty. -/
def bearerToken? (value : String) : Option String :=
  match Text.splitOn (· == ' ') value.toList with
  | [scheme, token] =>
    if Text.sameIgnoringCase (String.ofList scheme) "bearer" && !token.isEmpty then
      some (String.ofList token)
    else none
  | _ => none

/-- The client id and secret of a request. The id is trimmed, the secret is taken as it is. -/
def clientPair (hs : Headers) : Credential :=
  match hs.text? clientIdHeader, hs.text? clientSecretHeader with
  | some id, some secret => .client (Text.trim id) secret
  | _, _ => .absent

def ofHeaders (hs : Headers) : Credential :=
  match (hs.text? authorizationHeader).bind bearerToken? with
  | some token => .bearer token
  | none => clientPair hs

/-- The kind of a credential, if there is one. -/
def kind? : Credential → Option CredentialKind
  | .bearer _ => some .bearerToken
  | .client _ _ => some .clientCredentials
  | .absent => none

/-- The form of a credential that may be shown: neither token nor secret is part of it. -/
def redacted : Credential → String
  | .bearer _ => "BearerToken(<redacted>)"
  | .client id _ =>
    "ClientCredentials \x7b client_id: " ++ Text.escaped id ++
      ", client_secret: \"<redacted>\" \x7d"
  | .absent => "None"

end Credential

end Gatehouse
