import Gatehouse.Encoding.Hex
import Gatehouse.Text.Ascii
/-!
Identifiers of 128 bits. They are written as 32 lower-case hexadecimal digits in groups of 8, 4, 4,
4 and 12; read also without hyphens, in braces, or after `urn:uuid:`, in either case. Their order is
that of the numbers, which is also the order of their bytes and of their written forms.
-/

namespace Gatehouse

/-- An identifier of 128 bits. -/
structure Uuid where
  bits : BitVec 128
deriving DecidableEq

namespace Uuid

open Encoding Text

/-- Whether the first identifier is the smaller one. -/
def lt (a b : Uuid) : Bool := a.bits.toNat < b.bits.toNat

/-- The identifier that 32 hexadecimal digits denote. -/
def ofDigits? (cs : List Char) : Option Uuid :=
  if cs.length = 32 then (hexNumber? cs).map fun n => ⟨BitVec.ofNat 128 n⟩ else none

/-- The digits of the hyphenated form, when its hyphens are in place. -/
def groups? (cs : List Char) : Option (List Char) :=
  match splitOn (· == '-') cs with
  | [a, b, c, d, e] =>
    if a.length = 8 && b.length = 4 && c.length = 4 && d.length = 4 && e.length = 12 then
      some (a ++ b ++ c ++ d ++ e)
    else none
  | _ => none

/-- Reads the hyphenated form. -/
def ofHyphenated? (cs : List Char) : Option Uuid := (groups? cs).bind ofDigits?

/-- What follows `urn:uuid:`, in either case. -/
def afterUrn? (cs : List Char) : Option (List Char) :=
  if (cs.take 9).map lowerAscii = "urn:uuid:".toList then some (cs.drop 9) else none

/-- What stands between braces. -/
def insideBraces? (cs : List Char) : Option (List Char) := do
  beforeEnd? ['\x7d'] (← afterStart? ['\x7b'] cs)

/-- Reads an identifier in any of its spellings. -/
def parse? (s : String) : Option Uuid :=
  let cs := s.toList
  ofDigits? cs <|> ofHyphenated? cs <|> (insideBraces? cs).bind ofHyphenated? <|>
    (afterUrn? cs).bind ofHyphenated?

/-- The written form, as a list of characters. -/
def toChars (u : Uuid) : List Char :=
  let ds := hexDigits 32 u.bits.toNat
  ds.take 8 ++ ['-'] ++ (ds.drop 8).take 4 ++ ['-'] ++ (ds.drop 12).take 4 ++ ['-'] ++
    (ds.drop 16).take 4 ++ ['-'] ++ ds.drop 20

/-- The written form. -/
def toText (u : Uuid) : String := String.ofList u.toChars

end Uuid

end Gatehouse
