import Gatehouse.Encoding.Hex
/-!
JSON values and their one compact text: no blanks, members in the order given, all characters
written as they are except quotes, backslashes and the controls below the space.
-/

namespace Gatehouse.Json

/-- A JSON value as this library writes it. -/
inductive Value
  | null
  | bool (b : Bool)
  | number (n : Nat)
  | text (s : String)
  | array (items : List Value)
  | object (members : List (String × Value))

/-- One character inside a written text. -/
def escapeChar (c : Char) : List Char :=
  match c with
  | '"' => ['\\', '"']
  | '\\' => ['\\', '\\']
  | '\x08' => ['\\', 'b']
  | '\x0c' => ['\\', 'f']
  | '\n' => ['\\', 'n']
  | '\r' => ['\\', 'r']
  | '\t' => ['\\', 't']
  | c => if c.toNat < 0x20 then ['\\', 'u'] ++ Encoding.hexDigits 4 c.toNat else [c]

/-- A text between quotes. -/
def quote (s : String) : List Char := ['"'] ++ s.toList.flatMap escapeChar ++ ['"']

/-- The lists with commas between them. -/
def commaSeparated : List (List Char) → List Char
  | [] => []
  | [x] => x
  | x :: y :: rest => x ++ [','] ++ commaSeparated (y :: rest)

mutual

/-- The compact text of a value, as a list of characters. -/
def Value.chars : Value → List Char
  | .null => "null".toList
  | .bool true => "true".toList
  | .bool false => "false".toList
  | .number n => Nat.toDigits 10 n
  | .text s => quote s
  | .array items => ['['] ++ commaSeparated (itemsChars items) ++ [']']
  | .object members => ['\x7b'] ++ commaSeparated (membersChars members) ++ ['\x7d']

/-- The text of each item. -/
def itemsChars : List Value → List (List Char)
  | [] => []
  | v :: rest => v.chars :: itemsChars rest

/-- The text of each member. -/
def membersChars : List (String × Value) → List (List Char)
  | [] => []
  | (k, v) :: rest => (quote k ++ [':'] ++ v.chars) :: membersChars rest

end

/-- The compact text of a value. -/
def Value.render (v : Value) : String := String.ofList v.chars

def Value.texts (l : List String) : Value := .array (l.map .text)

/-- A text, or null. -/
def Value.textOrNull (s : Option String) : Value := s.elim .null .text

/-- A member, unless its value is absent. -/
def Value.member? (name : String) (v : Option Value) : List (String × Value) :=
  v.toList.map (name, ·)

end Gatehouse.Json
