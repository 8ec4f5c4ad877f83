/-!
Powers and inverses modulo a number, by repeated squaring.
-/

namespace Gatehouse.Signature

/-- The remainder of a power: `powMod m b e` is `b ^ e` modulo `m`. -/
def powMod (m b e : Nat) : Nat :=
  if e = 0 then 1 % m
  else
    let half := powMod m b (e / 2)
    let square := half * half % m
    if e % 2 = 0 then square else square * b % m
termination_by e

/-- The inverse of a number modulo a prime, of which it is no multiple. -/
def inverseMod (p a : Nat) : Nat := powMod p a (p - 2)

/-- The number that bytes stand for, the highest byte coming first. -/
def natOfBytes (bytes : List UInt8) : Nat := bytes.foldl (fun n b => 256 * n + b.toNat) 0

/-- The lowest `count` bytes of a number, the highest byte coming first. -/
def bytesOfNat : (count n : Nat) → List UInt8
  | 0, _ => []
  | k + 1, n => bytesOfNat k (n / 256) ++ [UInt8.ofNat n]

end Gatehouse.Signature
