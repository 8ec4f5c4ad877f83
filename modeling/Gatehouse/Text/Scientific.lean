import Gatehouse.Text.Decimal
/-!
Numbers in scientific form: digits with at most one point among or around them, and a power of ten
to scale them by.
-/

namespace Gatehouse.Text

/-- A number in scientific form: the digits as one number, and the power of ten to scale it by. -/
structure Scientific where
  negative : Bool
  digits : Nat
  scale : Int
deriving DecidableEq, Repr

namespace Scientific

/-- The sign of a number, and what follows it. -/
def splitSign : List Char → Bool × List Char
  | '-' :: cs => (true, cs)
  | '+' :: cs => (false, cs)
  | cs => (false, cs)

/-- Reads the power of ten that follows the digits. -/
def exponent? : List Char → Option Int
  | [] => some 0
  | e :: cs =>
    if e == 'e' || e == 'E' then
      let (negative, digits) := splitSign cs
      (natOfDigits? digits).map fun n => if negative then -(n : Int) else n
    else none

/-- Reads a number, with a sign or without. -/
def parse? (cs : List Char) : Option Scientific := do
  let (negative, cs) := splitSign cs
  let whole := cs.takeWhile isDigit
  let (fraction, rest) := match cs.drop whole.length with
    | '.' :: cs => (cs.takeWhile isDigit, cs.dropWhile isDigit)
    | cs => ([], cs)
  let digits ← natOfDigits? (whole ++ fraction)
  let exponent ← exponent? rest
  return ⟨negative, digits, exponent - fraction.length⟩

end Scientific

end Gatehouse.Text
