import Gatehouse.Signature.Hash
import Gatehouse.Signature.PowMod
/-!
RSA signatures with a public key: the older scheme, which pads the digest in one fixed way, and the
probabilistic one, of which the salt is as long as the digest.
-/

namespace Gatehouse.Signature

/-- A public RSA key as it is published: modulus and exponent, the highest byte first. -/
structure RsaKey where
  modulus : List UInt8
  exponent : List UInt8
deriving DecidableEq

namespace RsaKey

def leastBits : Nat := 2048

def greatestBits : Nat := 8192

/-- How many bits a number has. -/
def bitLength (n : Nat) : Nat := if n = 0 then 0 else n.log2 + 1

/-- Whether bytes are the shortest form of a number above zero. -/
def isShortest (bytes : List UInt8) : Bool := bytes.head?.any (· != 0)

/-- Whether signatures are checked with a key at all: the modulus is odd and of a size that is
trusted, the exponent odd and small. -/
def isSound (k : RsaKey) : Bool :=
  let n := natOfBytes k.modulus
  let e := natOfBytes k.exponent
  isShortest k.modulus && isShortest k.exponent && leastBits ≤ bitLength n &&
    bitLength n ≤ greatestBits && n % 2 == 1 && e % 2 == 1 && 2 ≤ bitLength e && bitLength e ≤ 33

/-- The block that was signed, when a signature is one at all for a key. -/
def recover (k : RsaKey) (signature : List UInt8) : Option (List UInt8) :=
  let n := natOfBytes k.modulus
  let s := natOfBytes signature
  if k.isSound && signature.length == k.modulus.length && s < n then
    some (bytesOfNat k.modulus.length (powMod n s (natOfBytes k.exponent)))
  else none

def fixedBlock (h : Hash) (size : Nat) (message : List UInt8) : List UInt8 :=
  let tail := h.marker ++ h.digest message
  [0, 1] ++ List.replicate (size - tail.length - 3) 0xff ++ [0] ++ tail

def verifyFixed (k : RsaKey) (h : Hash) (message signature : List UInt8) : Bool :=
  k.recover signature == some (fixedBlock h k.modulus.length message)

/-- The first `count` bytes of the mask that a seed stands for, made of digests of the seed and a
counter. -/
def mask (h : Hash) (seed : List UInt8) (count : Nat) : List UInt8 :=
  ((List.range ((count + h.size - 1) / h.size)).flatMap fun i =>
    h.digest (seed ++ bytesOfNat 4 i)).take count

/-- The list with its first bits set to zero; there are less than eight of them. -/
def clearTopBits (count : Nat) : List UInt8 → List UInt8
  | [] => []
  | b :: bs => UInt8.ofNat (b.toNat % Nat.pow 2 (8 - count)) :: bs

/-- Whether a block of `bits` bits is one of the probabilistic scheme for a digest. -/
def isSaltedBlock (h : Hash) (bits : Nat) (digest block : List UInt8) : Bool :=
  let spare := 8 * block.length - bits
  let maskedLength := block.length - h.size - 1
  let masked := block.take maskedLength
  let seed := (block.drop maskedLength).take h.size
  let blank := maskedLength - (h.size + 1)
  let plain := clearTopBits spare
    ((masked.zip (mask h seed maskedLength)).map fun (a, b) => a ^^^ b)
  let salt := plain.drop (blank + 1)
  2 * h.size + 2 ≤ block.length && block.getLast? == some 0xbc &&
    masked.head?.any (fun b => b.toNat < Nat.pow 2 (8 - spare)) &&
    plain.take (blank + 1) == List.replicate blank 0 ++ [1] &&
    h.digest (List.replicate 8 0 ++ digest ++ salt) == seed

def verifySalted (k : RsaKey) (h : Hash) (message signature : List UInt8) : Bool :=
  let bits := bitLength (natOfBytes k.modulus) - 1
  match k.recover signature with
  | none => false
  | some block =>
    let excess := block.length - (bits + 7) / 8
    (block.take excess).all (· == 0) &&
      isSaltedBlock h bits (h.digest message) (block.drop excess)

end RsaKey

end Gatehouse.Signature
