import Gatehouse.Token.Validation
/-!
Checking a token with a key: first the algorithm, then the signature, then the claims.
-/

namespace Gatehouse.Token

open Encoding

def takeApart (token : String) : Except TokenFault (Parts × Header) :=
  match Parts.ofText? token with
  | none => .error .invalidToken
  | some parts => (Header.ofPart parts.header).map (parts, ·)

/-- Checks the signature of a token whose header names an algorithm. -/
def checkSignature (v : Validation) (parts : Parts) (algorithm : Algorithm) (key : PublicKey) :
    Except TokenFault Unit := do
  if !v.algorithms.contains algorithm then throw .invalidAlgorithm
  let some verify := algorithm.verifier? key | throw .invalidKeyFormat
  let some signature := Base64.url.decode? parts.signature | throw .base64
  if verify parts.message signature then return () else throw .invalidSignature

/-- Reads the payload of a token. -/
def claimsOf (parts : Parts) : Except TokenFault Claims :=
  match Base64.url.decode? parts.payload with
  | none => .error .base64
  | some bytes => (Json.decodeBytes Claims.decoder bytes).mapError fun _ => .json

/-- Checks a token that was taken apart, at a second. -/
def check (demands : Demands) (now : Nat) (parts : Parts) (header : Header) (key : PublicKey) :
    Except TokenFault Claims := do
  let v := demands.validation header
  checkSignature v parts header.algorithm key
  let claims ← claimsOf parts
  v.check now claims
  return claims

end Gatehouse.Token
