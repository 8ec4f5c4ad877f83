import Gatehouse.Signature.Ecdsa
import Gatehouse.Signature.Rsa
/-!
The algorithms that tokens are signed with, and which of them count. A key that anybody can read
can only check signatures; an algorithm that would use it as a secret is never accepted.
-/

namespace Gatehouse.Token

open Signature

/-- The algorithms that the header of a token may name. -/
inductive Algorithm
  | hs256 | hs384 | hs512
  | es256 | es384
  | rs256 | rs384 | rs512
  | ps256 | ps384 | ps512
  | edDsa
deriving DecidableEq, Repr

namespace Algorithm

def all : List Algorithm :=
  [.hs256, .hs384, .hs512, .es256, .es384, .rs256, .rs384, .rs512, .ps256, .ps384, .ps512, .edDsa]

def name : Algorithm → String
  | .hs256 => "HS256"
  | .hs384 => "HS384"
  | .hs512 => "HS512"
  | .es256 => "ES256"
  | .es384 => "ES384"
  | .rs256 => "RS256"
  | .rs384 => "RS384"
  | .rs512 => "RS512"
  | .ps256 => "PS256"
  | .ps384 => "PS384"
  | .ps512 => "PS512"
  | .edDsa => "EdDSA"

def ofName? (s : String) : Option Algorithm := all.find? fun a => a.name == s

/-- The algorithms whose signatures a published key can check. -/
def accepted : List Algorithm :=
  [.rs256, .rs384, .rs512, .ps256, .ps384, .ps512, .es256, .es384]

/-- The algorithm by which a token is judged whose header names one: an algorithm that is not
accepted gives way to RS256, which the token then fails to name. -/
def judgedAs (a : Algorithm) : Algorithm := if accepted.contains a then a else .rs256

end Algorithm

/-- How a signature is checked with a public key. -/
inductive Scheme
  /-- RSA with the older padding. -/
  | rsaFixed (hash : Hash)
  /-- RSA with the probabilistic padding. -/
  | rsaSalted (hash : Hash)
  /-- An elliptic curve. -/
  | ecdsa (curve : Curve) (hash : Hash)

/-- The scheme of an algorithm, if public keys check its signatures. -/
def Algorithm.scheme? : Algorithm → Option Scheme
  | .rs256 => some (.rsaFixed .sha256)
  | .rs384 => some (.rsaFixed .sha384)
  | .rs512 => some (.rsaFixed .sha512)
  | .ps256 => some (.rsaSalted .sha256)
  | .ps384 => some (.rsaSalted .sha384)
  | .ps512 => some (.rsaSalted .sha512)
  | .es256 => some (.ecdsa .p256 .sha256)
  | .es384 => some (.ecdsa .p384 .sha384)
  | .hs256 | .hs384 | .hs512 | .edDsa => none

/-- A public key, ready for use. -/
inductive PublicKey
  | rsa (key : RsaKey)
  /-- The published form of a point. -/
  | curve (point : List UInt8)
deriving DecidableEq

/-- Whether a signature of a message is good; nothing when the key is not of the kind that the
scheme needs. -/
def Scheme.verify (s : Scheme) (key : PublicKey) : Option (List UInt8 → List UInt8 → Bool) :=
  match s, key with
  | .rsaFixed h, .rsa k => some (k.verifyFixed h)
  | .rsaSalted h, .rsa k => some (k.verifySalted h)
  | .ecdsa c h, .curve point => some (c.verify h point)
  | _, _ => none

/-- Whether a signature of a message is good by an algorithm; nothing when the key is not of the
kind that the algorithm needs. -/
def Algorithm.verifier? (a : Algorithm) (key : PublicKey) :
    Option (List UInt8 → List UInt8 → Bool) :=
  a.scheme?.bind (·.verify key)

end Gatehouse.Token
