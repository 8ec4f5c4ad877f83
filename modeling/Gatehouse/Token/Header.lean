import Gatehouse.Json.Bytes
import Gatehouse.Provider
import Gatehouse.Token.KeySet
/-!
A signed token taken apart: header, payload and signature, each in base 64, with dots between them.
The header names the algorithm and the key of the signature; whatever else it holds has to be text.
-/

namespace Gatehouse.Token

open Json Encoding

/-- The parts of a token. -/
structure Parts where
  header : List Char
  payload : List Char
  signature : List Char
deriving DecidableEq

/-- A list in front of and behind its last element that satisfies `p`. -/
def splitLast? {α : Type} (p : α → Bool) (l : List α) : Option (List α × List α) :=
  match l.reverse.dropWhile (!p ·) with
  | [] => none
  | _ :: front => some (front.reverse, (l.reverse.takeWhile (!p ·)).reverse)

namespace Parts

/-- The parts of a text: what follows the last dot is the signature, and what lies between the last
dot but one and the last dot the payload. -/
def ofText? (s : String) : Option Parts := do
  let (front, signature) ← splitLast? (· == '.') s.toList
  let (header, payload) ← splitLast? (· == '.') front
  return ⟨header, payload, signature⟩

/-- What is signed: header and payload as they stand in the token. -/
def message (p : Parts) : List UInt8 :=
  (String.ofList (p.header ++ ['.'] ++ p.payload)).toUTF8.toList

end Parts

/-- What the header of a token says about its signature. -/
structure Header where
  algorithm : Algorithm
  keyId : Option String
deriving DecidableEq, Repr

namespace Header

def fields : List Field :=
  [.optional "typ" text, .required "alg" (oneOf Algorithm.ofName?), .optional "cty" text,
    .optional "jku" text, .optional "jwk" PublishedKey.decoder, .optional "kid" text,
    .optional "x5u" text, .optional "x5c" (list text), .optional "x5t" text,
    .optional "x5t#S256" text, .optional "crit" (list text), .optional "enc" text,
    .optional "zip" text, .optional "url" text, .optional "nonce" text]

/-- Checks that every member that is not known is text. -/
def checkOthers : List (Except Flaw String × Draft) → Except ReadFault Unit
  | [] => .ok ()
  | (.error f, _) :: _ => .error f.fault
  | (.ok k, d) :: ms => do
    if !fields.any (·.name == k) then
      let _ ← text d
    checkOthers ms

def decoder : Decoder Header
  | .object ms ending => do
    checkOthers ms
    let p ← record fields true (.object ms ending)
    return {
      algorithm := ← p.required "alg" (oneOf Algorithm.ofName?)
      keyId := ← p.optional "kid" text }
  | d => .error d.mismatch

def ofPart (part : List Char) : Except TokenFault Header :=
  match Base64.url.decode? part with
  | none => .error .base64
  | some bytes => (decodeBytes decoder bytes).mapError fun _ => .json

end Header

end Gatehouse.Token
