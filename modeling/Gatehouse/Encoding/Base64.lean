import Gatehouse.Text.Ascii
/-!
Base 64 without padding, over the standard and the URL alphabet. Reading is canonical: the bits of
the last character that no byte uses must be zero, so every byte list has exactly one written form.
-/

namespace Gatehouse.Encoding

/-- The two characters in which the alphabets differ. -/
structure Base64 where
  char62 : Char
  char63 : Char

namespace Base64

/-- The alphabet with `+` and `/`. -/
def standard : Base64 := ⟨'+', '/'⟩

/-- The alphabet that is safe in addresses. -/
def url : Base64 := ⟨'-', '_'⟩

/-- The character of a value below 64. -/
def char (a : Base64) (n : Nat) : Char :=
  if n < 26 then Char.ofNat (65 + n)
  else if n < 52 then Char.ofNat (71 + n)
  else if n < 62 then Char.ofNat (n - 4)
  else if n = 62 then a.char62
  else a.char63

def value? (a : Base64) (c : Char) : Option Nat :=
  if 'A' ≤ c && c ≤ 'Z' then some (c.toNat - 65)
  else if 'a' ≤ c && c ≤ 'z' then some (c.toNat - 71)
  else if '0' ≤ c && c ≤ '9' then some (c.toNat + 4)
  else if c = a.char62 then some 62
  else if c = a.char63 then some 63
  else none

/-- The written form of a byte list. -/
def encode (a : Base64) : List UInt8 → List Char
  | [] => []
  | [x] =>
    let n := x.toNat * 16
    [a.char (n / 64), a.char (n % 64)]
  | [x, y] =>
    let n := (x.toNat * 256 + y.toNat) * 4
    [a.char (n / 4096), a.char (n / 64 % 64), a.char (n % 64)]
  | x :: y :: z :: rest =>
    let n := (x.toNat * 256 + y.toNat) * 256 + z.toNat
    a.char (n / 262144) :: a.char (n / 4096 % 64) :: a.char (n / 64 % 64) :: a.char (n % 64) ::
      encode a rest

/-- The bytes of a list of values below 64, when it has no unused bit set. -/
def bytes? : List Nat → Option (List UInt8)
  | [] => some []
  | [_] => none
  | [p, q] =>
    let n := p * 64 + q
    if n % 16 = 0 then some [UInt8.ofNat (n / 16)] else none
  | [p, q, r] =>
    let n := (p * 64 + q) * 64 + r
    if n % 4 = 0 then some [UInt8.ofNat (n / 1024), UInt8.ofNat (n / 4)] else none
  | p :: q :: r :: s :: rest => do
    let n := ((p * 64 + q) * 64 + r) * 64 + s
    let tail ← bytes? rest
    pure (UInt8.ofNat (n / 65536) :: UInt8.ofNat (n / 256) :: UInt8.ofNat n :: tail)

/-- The bytes that a text denotes. -/
def decode? (a : Base64) (cs : List Char) : Option (List UInt8) := do
  bytes? (← cs.mapM a.value?)

end Base64

end Gatehouse.Encoding
