import Gatehouse.Text.Ascii
/-!
Unsigned decimal numbers with a bound. A number is an optional plus sign and one or more digits;
the first character that spoils it, read from the left, decides which fault is reported.
-/

namespace Gatehouse.Text

/-- Why a text is not an unsigned number within its bound. -/
inductive DecimalFault
  | empty
  | strayCharacter
  | tooLarge
deriving DecidableEq, Repr

def DecimalFault.message : DecimalFault → String
  | .empty => "cannot parse integer from empty string"
  | .strayCharacter => "invalid digit found in string"
  | .tooLarge => "number too large to fit in target type"

def digitValue (c : Char) : Nat := c.toNat - 48

/-- Appends the digits of a text to the number read so far, all values staying below `bound`. -/
def readDigits (bound : Nat) : Nat → List Char → Except DecimalFault Nat
  | n, [] => .ok n
  | n, c :: cs =>
    if isDigit c then
      if 10 * n + digitValue c < bound then readDigits bound (10 * n + digitValue c) cs
      else .error .tooLarge
    else .error .strayCharacter

/-- Reads a number below `bound` with an optional plus sign. -/
def readUnsigned (bound : Nat) : List Char → Except DecimalFault Nat
  | [] => .error .empty
  | ['+'] => .error .strayCharacter
  | '+' :: cs => readDigits bound 0 cs
  | cs => readDigits bound 0 cs

/-- The number written by a nonempty list of digits and nothing else. -/
def natOfDigits? (cs : List Char) : Option Nat :=
  if cs.isEmpty || !cs.all isDigit then none
  else some (cs.foldl (fun n c => 10 * n + digitValue c) 0)

end Gatehouse.Text
