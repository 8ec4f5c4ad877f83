import Gatehouse.Json.Decode
/-!
Reading JSON from bytes that may not be text. Bytes that encode no character are read as something
that no JSON text can hold: outside texts it is malformed, and inside a text it leaves the text
unreadable without ending it.
-/

namespace Gatehouse.Json

/-- Two unpaired surrogates after a letter, in the place of a byte that encodes no character. -/
def unreadableByte : List Char := "x\\ud800\\ud800".toList

/-- Reads the character at the start of bytes; tells how many bytes follow it at least. -/
def characterAt (bytes : List UInt8) : Option (Char × List UInt8) :=
  match bytes with
  | [] => none
  | a :: rest =>
    let continuation (b : UInt8) : Bool := 0x80 ≤ b && b < 0xc0
    let six (b : UInt8) : Nat := b.toNat % 64
    if a < 0x80 then some (Char.ofNat a.toNat, rest)
    else if 0xc2 ≤ a && a < 0xe0 then match rest with
      | b :: rest =>
        if continuation b then some (Char.ofNat (a.toNat % 32 * 64 + six b), rest) else none
      | _ => none
    else if 0xe0 ≤ a && a < 0xf0 then match rest with
      | b :: c :: rest =>
        let n := (a.toNat % 16 * 64 + six b) * 64 + six c
        if continuation b && continuation c && 0x800 ≤ n && (n < 0xd800 || 0xe000 ≤ n) then
          some (Char.ofNat n, rest)
        else none
      | _ => none
    else if 0xf0 ≤ a && a < 0xf5 then match rest with
      | b :: c :: d :: rest =>
        let n := ((a.toNat % 8 * 64 + six b) * 64 + six c) * 64 + six d
        if continuation b && continuation c && continuation d && 0x10000 ≤ n && n < 0x110000 then
          some (Char.ofNat n, rest)
        else none
      | _ => none
    else none

/-- The characters of bytes, `fuel` of them at most. -/
def charactersUpTo : (fuel : Nat) → List UInt8 → List Char
  | 0, _ => []
  | _, [] => []
  | fuel + 1, a :: rest => match characterAt (a :: rest) with
    | some (c, rest) => c :: charactersUpTo fuel rest
    | none => unreadableByte ++ charactersUpTo fuel rest

def characters (bytes : List UInt8) : List Char := charactersUpTo bytes.length bytes

/-- Reads bytes that hold one value and nothing after it. -/
def decodeBytes {α : Type} (dec : Decoder α) (bytes : List UInt8) : Except ReadFault α :=
  decodeChars dec (characters bytes)

end Gatehouse.Json
