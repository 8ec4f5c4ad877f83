import Gatehouse.Text.HiddenTable
import Gatehouse.Text.Lowercase
/-!
The escaped form of a text, for messages that quote it: between double quotes, with a backslash
before quotes and backslashes, short escapes for the common controls and the code point in braces
for every other character without a visible form.
-/

namespace Gatehouse.Text

/-- Whether a character has no visible form of its own. -/
def isHidden (c : Char) : Bool := inRanges hiddenRanges c.toNat

def escapeChar (c : Char) : List Char :=
  match c with
  | '\x00' => ['\\', '0']
  | '\t' => ['\\', 't']
  | '\n' => ['\\', 'n']
  | '\r' => ['\\', 'r']
  | '"' => ['\\', '"']
  | '\\' => ['\\', '\\']
  | c =>
    if isHidden c then ['\\', 'u', '\x7b'] ++ Nat.toDigits 16 c.toNat ++ ['\x7d'] else [c]

/-- The escaped form of a text, with its quotes. -/
def escaped (s : String) : String :=
  String.ofList (['"'] ++ s.toList.flatMap escapeChar ++ ['"'])

end Gatehouse.Text
