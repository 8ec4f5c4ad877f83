import Gatehouse.Encoding.Hex
/-!
Percent encoding: a percent sign and two hexadecimal digits stand for one byte, and every other
character for its own bytes. A percent sign that is not followed by two digits stands for itself.
-/

namespace Gatehouse.Encoding

def bytesOf (c : Char) : List UInt8 := (String.singleton c).toUTF8.toList

/-- The bytes that a percent-encoded text stands for. -/
def percentDecode : List Char → List UInt8
  | [] => []
  | '%' :: a :: b :: rest => match hexNumber? [a, b] with
    | some n => UInt8.ofNat n :: percentDecode rest
    | none => bytesOf '%' ++ percentDecode (a :: b :: rest)
  | c :: rest => bytesOf c ++ percentDecode rest

/-- The text that bytes encode, if they do. -/
def textOfBytes? (bytes : List UInt8) : Option String :=
  String.fromUTF8? (ByteArray.mk bytes.toArray)

/-- The text that a percent-encoded text stands for, if its bytes make one. -/
def percentDecodeText? (cs : List Char) : Option String := textOfBytes? (percentDecode cs)

end Gatehouse.Encoding
