/-!
Hexadecimal digits: reading either case, writing lower case.
-/

namespace Gatehouse.Encoding

/-- The value of a hexadecimal digit of either case. -/
def hexValue? (c : Char) : Option Nat :=
  if '0' ≤ c && c ≤ '9' then some (c.toNat - 48)
  else if 'a' ≤ c && c ≤ 'f' then some (c.toNat - 87)
  else if 'A' ≤ c && c ≤ 'F' then some (c.toNat - 55)
  else none

/-- The lower-case digit of a value below sixteen. -/
def hexDigit (n : Nat) : Char :=
  if n < 10 then Char.ofNat (48 + n) else Char.ofNat (87 + n)

/-- The `count` lowest hexadecimal digits of a number, highest first. -/
def hexDigits : (count n : Nat) → List Char
  | 0, _ => []
  | k + 1, n => hexDigits k (n / 16) ++ [hexDigit (n % 16)]

def hexNumber? : List Char → Option Nat :=
  List.foldl (fun n c => do
    let n ← n
    let d ← hexValue? c
    pure (16 * n + d)) (some 0)

/-- The two digits of every byte. -/
def hex (bytes : List UInt8) : List Char := bytes.flatMap fun b => hexDigits 2 b.toNat

/-- The bytes that pairs of digits denote. -/
def unhex? : List Char → Option (List UInt8)
  | [] => some []
  | [_] => none
  | a :: b :: rest => do
    let n ← hexNumber? [a, b]
    let tail ← unhex? rest
    pure (UInt8.ofNat n :: tail)

end Gatehouse.Encoding
