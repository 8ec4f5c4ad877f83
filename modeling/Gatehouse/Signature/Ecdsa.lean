import Gatehouse.Signature.Hash
import Gatehouse.Signature.PowMod
/-!
Signatures over elliptic curves of the form `y² = x³ - 3x + b` modulo a prime. A signature is a pair
of numbers of a fixed length each.
-/

namespace Gatehouse.Signature

/-- A curve with a point that generates a group of prime order. -/
structure Curve where
  prime : Nat
  b : Nat
  order : Nat
  generatorX : Nat
  generatorY : Nat
  /-- The length of a coordinate in bytes. -/
  size : Nat

/-- A point of a curve. -/
inductive Point
  | infinity
  | affine (x y : Nat)
deriving DecidableEq

namespace Curve

def p256 : Curve where
  prime := 0xffffffff00000001000000000000000000000000ffffffffffffffffffffffff
  b := 0x5ac635d8aa3a93e7b3ebbd55769886bc651d06b0cc53b0f63bce3c3e27d2604b
  order := 0xffffffff00000000ffffffffffffffffbce6faada7179e84f3b9cac2fc632551
  generatorX := 0x6b17d1f2e12c4247f8bce6e563a440f277037d812deb33a0f4a13945d898c296
  generatorY := 0x4fe342e2fe1a7f9b8ee7eb4a7c0f9e162bce33576b315ececbb6406837bf51f5
  size := 32

def p384 : Curve where
  prime :=
    0xfffffffffffffffffffffffffffffffffffffffffffffffffffffffffffffffeffffffff0000000000000000ffffffff
  b :=
    0xb3312fa7e23ee7e4988e056be3f82d19181d9c6efe8141120314088f5013875ac656398d8a2ed19d2a85c8edd3ec2aef
  order :=
    0xffffffffffffffffffffffffffffffffffffffffffffffffc7634d81f4372ddf581a0db248b0a77aecec196accc52973
  generatorX :=
    0xaa87ca22be8b05378eb1c71ef320ad746e1d3b628ba79b9859f741e082542a385502f25dbf55296c3a545e3872760ab7
  generatorY :=
    0x3617de4a96262c6f5d9e98bf9292dc29f8f41dbd289a147ce9da3113b5f0b8c00a60b1ce1d7e819d7a431d7c90ea0e5f
  size := 48

def generator (c : Curve) : Point := .affine c.generatorX c.generatorY

/-- The difference of two numbers modulo the prime. -/
def minus (c : Curve) (a b : Nat) : Nat := (a + (c.prime - b % c.prime)) % c.prime

/-- Whether two numbers are the coordinates of a point of the curve. -/
def contains (c : Curve) (x y : Nat) : Bool :=
  x < c.prime && y < c.prime && y * y % c.prime == c.minus (x * x * x + c.b) (3 * x)

/-- The third point on the line through a point with a given slope, reflected in the axis. -/
def follow (c : Curve) (slope x1 y1 x2 : Nat) : Point :=
  let x := c.minus (slope * slope) (x1 + x2)
  .affine x (c.minus (slope * c.minus x1 x) y1)

/-- The sum of two points. -/
def add (c : Curve) : Point → Point → Point
  | .infinity, q => q
  | p, .infinity => p
  | .affine x1 y1, .affine x2 y2 =>
    if x1 = x2 then
      if (y1 + y2) % c.prime = 0 then .infinity
      else c.follow (c.minus (3 * x1 * x1) 3 * inverseMod c.prime (2 * y1) % c.prime) x1 y1 x1
    else c.follow (c.minus y2 y1 * inverseMod c.prime (c.minus x2 x1) % c.prime) x1 y1 x2

def times (c : Curve) (n : Nat) (p : Point) : Point :=
  if n = 0 then .infinity
  else
    let half := c.times (n / 2) p
    let double := c.add half half
    if n % 2 = 0 then double else c.add double p
termination_by n

/-- Reads a point that is written as the number 4 and its two coordinates. -/
def point? (c : Curve) (bytes : List UInt8) : Option Point :=
  match bytes with
  | 4 :: coordinates =>
    let x := natOfBytes (coordinates.take c.size)
    let y := natOfBytes (coordinates.drop c.size)
    if coordinates.length = 2 * c.size && c.contains x y then some (.affine x y) else none
  | _ => none

def isSignature (c : Curve) (key : Point) (digest r s : Nat) : Bool :=
  let inverse := inverseMod c.order s
  let sum := c.add (c.times (digest * inverse % c.order) c.generator)
    (c.times (r * inverse % c.order) key)
  1 ≤ r && r < c.order && 1 ≤ s && s < c.order && match sum with
    | .infinity => false
    | .affine x _ => x % c.order == r

/-- Verifies a signature with the published form of a key. The digest is as long as a coordinate. -/
def verify (c : Curve) (h : Hash) (key message signature : List UInt8) : Bool :=
  match c.point? key with
  | none => false
  | some p =>
    signature.length == 2 * c.size &&
      c.isSignature p (natOfBytes (h.digest message)) (natOfBytes (signature.take c.size))
        (natOfBytes (signature.drop c.size))

end Curve

end Gatehouse.Signature
