import Gatehouse.Call
import Gatehouse.Duration
import Gatehouse.Provider.Json
import Gatehouse.Provider.Web
import Gatehouse.Token.Check
/-!
An OpenID Connect provider. Tokens are checked against the keys that it publishes, which are kept
for a limited time and fetched once more when a token names a key that is not among them; the claims
of a subject are fetched with its own token.
-/

namespace Gatehouse.Provider

open Json Token

/-- Where a provider is found, and which issuer its tokens name. -/
structure Discovery where
  issuer : String
  keysUrl : String
  claimsUrl : String
deriving DecidableEq

namespace Discovery

/-- The fields of a discovery document that matter. -/
def fields : List Field :=
  [.required "issuer" text, .required "jwks_uri" text, .required "userinfo_endpoint" text]

def decoder : Decoder Discovery := fun d => do
  let p ← record fields true d
  return {
    issuer := ← p.required "issuer" text
    keysUrl := ← p.required "jwks_uri" text
    claimsUrl := ← p.required "userinfo_endpoint" text }

end Discovery

/-- A provider, and what is demanded of its tokens. -/
structure OpenId where
  discovery : Discovery
  audiences : List String
  /-- How many seconds a token is accepted after it has expired. -/
  leeway : Nat
  /-- How long keys are kept. -/
  keysTtl : Duration
  /-- How long a response is waited for. -/
  patience : Duration
deriving DecidableEq

/-- The keys fetched last, with the time at which they were, in milliseconds. -/
structure CachedKeys where
  keys : KeySet
  time : Nat
deriving DecidableEq

/-- The keys at hand. -/
abbrev KeyCache := Option CachedKeys

/-- The keys at hand that are not too old. -/
def KeyCache.fresh? (c : KeyCache) (ttl : Duration) (now : Nat) : Option KeySet :=
  (c.filter fun k => (Duration.ofMillis (now - k.time)).nanos < ttl.nanos).map (·.keys)

/-- What a lookup depends on beside the provider: the time, in milliseconds, and what is made of a
response that does not come. -/
structure Moment where
  now : Nat
  silence : ProviderFault := silenceFault
deriving DecidableEq

/-- A computation that fetches documents, keeps keys, and may find fault with a token. Keys that it
has fetched before it fails are kept. -/
abbrev Lookup := ReaderT Moment (ExceptT ProviderFault (StateT KeyCache Web))

/-- Fetches a document as a step of a lookup. -/
def document {α : Type} (f : Fetch) (dec : Decoder α) : Lookup α := fun moment =>
  ExceptT.mk (StateT.lift (fetch moment.silence f dec))

namespace OpenId

/-- Fetches the keys of the provider and keeps them. -/
def refreshKeys (p : OpenId) : Lookup KeySet := do
  let keys ← document ⟨p.discovery.keysUrl, none⟩ KeySet.decoder
  set (some ⟨keys, (← read).now⟩ : KeyCache)
  return keys

/-- The keys of the provider: those at hand, unless they are too old. -/
def currentKeys (p : OpenId) : Lookup KeySet := do
  match KeyCache.fresh? (← get) p.keysTtl (← read).now with
  | some keys => return keys
  | none => p.refreshKeys

/-- The key with an id. Keys that lack it are fetched once more before it counts as unknown. -/
def findKey (p : OpenId) (id : String) : Lookup PublicKey := do
  match (← p.currentKeys).publicKey? id with
  | some key => return key
  | none => match (← p.refreshKeys).publicKey? id with
    | some key => return key
    | none => throw (.unknownKeyId id)

/-- What is demanded of the claims of a token. -/
def demands (p : OpenId) : Demands := ⟨p.discovery.issuer, p.audiences, p.leeway⟩

/-- A check of a token as a step of a lookup. -/
def checked {α : Type} (r : Except TokenFault α) : Lookup α :=
  match r with
  | .ok a => return a
  | .error fault => throw (.rejected fault)

def validate (p : OpenId) (token : String) : Lookup ValidatedToken := do
  let (parts, header) ← checked (takeApart token)
  let some id := header.keyId | throw .missingKeyId
  let key ← p.findKey id
  let claims ← checked (check p.demands ((← read).now / 1000) parts header key)
  return ⟨claims.subject, claims.expiry, token⟩

def claims (p : OpenId) (validated : ValidatedToken) : Lookup SubjectClaims :=
  document ⟨p.discovery.claimsUrl, some validated.raw⟩ SubjectClaims.decoder

def lookup (p : OpenId) : (c : ProviderCall) → Lookup c.Value
  | .validate token => p.validate token
  | .claims validated => p.claims validated

/-- Answers a call that has a bound. A response that is not there in time makes the call late if the
bound is reached before the provider itself gives up waiting. -/
def answer (p : OpenId) (bound : Duration) (now : Nat) (c : ProviderCall) :
    KeyCache → Web (c.Answer × KeyCache) :=
  let silence := if p.patience.nanos < bound.nanos then silenceFault else .timedOut
  p.lookup c ⟨now, silence⟩

end OpenId

end Gatehouse.Provider
