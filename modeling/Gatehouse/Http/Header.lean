import Gatehouse.Text.Ascii
/-!
Request headers. A list of headers keeps the order in which they were given; names are compared
without regard to case, and a reader of one header sees the first value given for it.
-/

namespace Gatehouse.Http

/-- A header: its name in lower case and the bytes of its value. -/
structure Header where
  name : String
  value : List UInt8
deriving DecidableEq

/-- The headers of a request, in order. -/
abbrev Headers := List Header

/-- Why a list of headers is refused. -/
inductive HeaderFault
  | invalidName
  | invalidValue
deriving DecidableEq, Repr

/-- Whether a character may occur in the name of a header. -/
def isTokenChar (c : Char) : Bool :=
  Text.isLetter c || Text.isDigit c ||
    ['!', '#', '$', '%', '&', '\x27', '*', '+', '-', '.', '^', '_', '\x60', '|', '~'].contains c

/-- Whether a text may name a header. -/
def isToken (s : String) : Bool := !s.isEmpty && s.toList.all isTokenChar

/-- Whether a byte may occur in the value of a header. -/
def isValueByte (b : UInt8) : Bool := b == 9 || (32 ≤ b && b != 127)

/-- Whether a byte stands for a character by itself. -/
def isTextByte (b : UInt8) : Bool := b == 9 || (32 ≤ b && b < 127)

/-- Accepts a list of headers, or says what is wrong with the first one that is not acceptable. -/
def Headers.accept : List (String × List UInt8) → Except HeaderFault Headers
  | [] => .ok []
  | (name, value) :: rest =>
    if !isToken name then .error .invalidName
    else if !value.all isValueByte then .error .invalidValue
    else (accept rest).map (⟨Text.lowerAsciiText name, value⟩ :: ·)

def Headers.first? (hs : Headers) (name : String) : Option (List UInt8) :=
  (hs.find? (·.name == name)).map (·.value)

/-- The text of a value, when every byte of it stands for a character. -/
def textOf? (value : List UInt8) : Option String :=
  if value.all isTextByte then some (String.ofList (value.map fun b => Char.ofNat b.toNat))
  else none

/-- The first value given for a header, when it is text. -/
def Headers.text? (hs : Headers) (name : String) : Option String := (hs.first? name).bind textOf?

end Gatehouse.Http
