import Gatehouse.Encoding.Base64
import Gatehouse.Json.Decode
import Gatehouse.Token.Algorithm
/-!
The keys that an identity provider publishes. An entry is taken for what its type says; a set with
an entry of no known type is not readable at all. An entry that is known but cannot check signatures
is as good as none.
-/

namespace Gatehouse.Token

open Json Encoding Signature

/-- What a published key consists of. -/
inductive KeyMaterial
  /-- Modulus and exponent. -/
  | rsa (modulus exponent : String)
  /-- The coordinates of a point. -/
  | curve (x y : String)
  /-- A secret, or a key of a kind that tokens are not signed with. -/
  | other
deriving DecidableEq, Repr

/-- A published key. -/
structure PublishedKey where
  id : Option String
  material : KeyMaterial
deriving DecidableEq, Repr

/-- The keys that a provider publishes, in order. -/
structure KeySet where
  keys : List PublishedKey
deriving DecidableEq, Repr

/-! ## Reading -/

namespace PublishedKey

/-- The members of an object, all of whose keys are readable. -/
abbrev Members := List (String × Draft)

/-- Reads the members of an object in full. The object may be nested `depth` deep. -/
def members (depth : Nat) : Decoder Members
  | .object ms ending => do
    (Draft.object ms ending).keep depth
    return ms.filterMap fun (k, d) => k.toOption.map (·, d)
  | d => .error d.mismatch

/-- The one member of a name, if there is any. -/
def member? (ms : Members) (name : String) : Except ReadFault (Option Draft) :=
  match ms.filter (·.1 == name) with
  | [] => .ok none
  | [(_, d)] => .ok (some d)
  | _ => .error .mismatch

/-- Reads a member that may be null or missing. -/
def readOptional {α : Type} (ms : Members) (name : String) (dec : Decoder α) :
    Except ReadFault (Option α) := do
  match ← member? ms name with
  | none => return none
  | some d => Json.optional dec d

def readRequired {α : Type} (ms : Members) (name : String) (dec : Decoder α) :
    Except ReadFault α := do
  match ← member? ms name with
  | none => throw .mismatch
  | some d => dec d

def oneOfNames (names : List String) : Decoder Unit :=
  oneOf fun s => if names.contains s then some () else none

/-- The curves that a key may lie on. -/
def curveNames : List String := ["P-256", "P-384", "P-521", "Ed25519"]

/-- Reads the members that every key may have, of which only the id matters. -/
def readCommon (ms : Members) : Except ReadFault (Option String) := do
  let _ ← readOptional ms "use" text
  let _ ← readOptional ms "key_ops" (list text)
  let _ ← readOptional ms "alg" (oneOf fun _ => some ())
  let _ ← readOptional ms "x5u" text
  let _ ← readOptional ms "x5c" (list text)
  let _ ← readOptional ms "x5t" text
  let _ ← readOptional ms "x5t#S256" text
  readOptional ms "kid" text

def readCurve (ms : Members) : Except ReadFault KeyMaterial := do
  readRequired ms "kty" (oneOfNames ["EC"])
  readRequired ms "crv" (oneOfNames curveNames)
  return .curve (← readRequired ms "x" text) (← readRequired ms "y" text)

def readRsa (ms : Members) : Except ReadFault KeyMaterial := do
  readRequired ms "kty" (oneOfNames ["RSA"])
  return .rsa (← readRequired ms "n" text) (← readRequired ms "e" text)

def readSecret (ms : Members) : Except ReadFault KeyMaterial := do
  readRequired ms "kty" (oneOfNames ["oct"])
  let _ ← readRequired ms "k" text
  return .other

/-- Reads a key of which one coordinate is published. -/
def readPair (ms : Members) : Except ReadFault KeyMaterial := do
  readRequired ms "kty" (oneOfNames ["OKP"])
  readRequired ms "crv" (oneOfNames curveNames)
  let _ ← readRequired ms "x" text
  return .other

def readMaterial (ms : Members) : Except ReadFault KeyMaterial :=
  readCurve ms <|> readRsa ms <|> readSecret ms <|> readPair ms

/-- How deep an entry of a key set may be nested. -/
def entryDepth : Nat := 125

def decoder : Decoder PublishedKey := fun d => do
  let ms ← members entryDepth d
  return ⟨← readCommon ms, ← readMaterial ms⟩

end PublishedKey

def KeySet.fields : List Field := [.required "keys" (list PublishedKey.decoder)]

def KeySet.decoder : Decoder KeySet := fun d => do
  let p ← record fields true d
  return ⟨← p.required "keys" (list PublishedKey.decoder)⟩

/-! ## Use -/

/-- The key for checking signatures that published material stands for. -/
def KeyMaterial.publicKey? : KeyMaterial → Option PublicKey
  | .rsa n e => do
    return .rsa ⟨← Base64.url.decode? n.toList, ← Base64.url.decode? e.toList⟩
  | .curve x y => do
    return .curve (4 :: (← Base64.url.decode? x.toList) ++ (← Base64.url.decode? y.toList))
  | .other => none

def KeySet.entry? (s : KeySet) (id : String) : Option PublishedKey :=
  s.keys.find? (·.id == some id)

/-- The key for checking signatures that the first entry with an id stands for. -/
def KeySet.publicKey? (s : KeySet) (id : String) : Option PublicKey :=
  (s.entry? id).bind (·.material.publicKey?)

end Gatehouse.Token
