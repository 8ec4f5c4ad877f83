import Gatehouse.Digest.Sha512
/-!
The hash functions that signatures are made with.
-/

namespace Gatehouse.Signature

/-- A hash function for signatures. -/
inductive Hash
  | sha256
  | sha384
  | sha512
deriving DecidableEq, Repr

namespace Hash

/-- The length of a digest in bytes. -/
def size : Hash → Nat
  | .sha256 => 32
  | .sha384 => 48
  | .sha512 => 64

def digest : Hash → List UInt8 → List UInt8
  | .sha256 => Digest.sha256
  | .sha384 => Digest.sha384
  | .sha512 => Digest.sha512

/-- What precedes a digest in a signed block to say which function it comes from. -/
def marker (h : Hash) : List UInt8 :=
  let (last, length) : UInt8 × UInt8 := match h with
    | .sha256 => (1, 0x31)
    | .sha384 => (2, 0x41)
    | .sha512 => (3, 0x51)
  [0x30, length, 0x30, 0x0d, 0x06, 0x09, 0x60, 0x86, 0x48, 0x01, 0x65, 0x03, 0x04, 0x02, last,
    0x05, 0x00, 0x04, UInt8.ofNat h.size]

end Hash

end Gatehouse.Signature
