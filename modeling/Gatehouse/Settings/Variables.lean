import Gatehouse.Settings.Tree
import Gatehouse.Text.Blank
import Gatehouse.Text.Scientific
/-!
Settings in variables. A variable whose name starts with `AAA_`, in either case, is a setting; two
underscores in the rest of the name lead into a section. Its value is written in a small language of
its own, with lists and maps, and a value that does not follow it is a text as it stands.
-/

namespace Gatehouse.Settings

open Text Encoding

/-- Variables with their values. -/
abbrev Variables := List (String × String)

namespace Variables

def get? (v : Variables) (name : String) : Option String := v.lookup name

/-- Gives a value to a variable that has none. -/
def setIfUnset (v : Variables) (name value : String) : Variables :=
  if (v.get? name).isSome then v else v ++ [(name, value)]

end Variables

namespace Written

/-! ## Values -/

/-- Whether a character is a blank around values. -/
def isSpace (c : Char) : Bool := c == ' ' || c == '\t' || c == '\n' || c == '\x0c' || c == '\r'

/-- The text after the blanks at its start. -/
def skipSpaces (cs : List Char) : List Char := cs.dropWhile isSpace

def shortEscape? : Char → Option Char
  | '"' => some '"'
  | '\\' => some '\\'
  | 'b' => some '\x08'
  | 'f' => some '\x0c'
  | 'n' => some '\n'
  | 'r' => some '\r'
  | 't' => some '\t'
  | _ => none

/-- The character with a code, unless it is half of one or none. -/
def character? (n : Nat) : Option Char :=
  if h : n.isValidChar then some (Char.ofNatAux n h) else none

/-- Reads a quoted text after its first quote. -/
def quoted? : List Char → Option (List Char × List Char)
  | [] => none
  | '"' :: rest => some ([], rest)
  | '\\' :: 'u' :: a :: b :: c :: d :: rest => do
    let x ← character? (← hexNumber? [a, b, c, d])
    let (text, rest) ← quoted? rest
    return (x :: text, rest)
  | '\\' :: 'U' :: a :: b :: c :: d :: e :: f :: g :: h :: rest => do
    let x ← character? (← hexNumber? [a, b, c, d, e, f, g, h])
    let (text, rest) ← quoted? rest
    return (x :: text, rest)
  | '\\' :: e :: rest => do
    let x ← shortEscape? e
    let (text, rest) ← quoted? rest
    return (x :: text, rest)
  | x :: rest => do
    let (text, rest) ← quoted? rest
    return (x :: text, rest)

def isSeparator (c : Char) : Bool :=
  c == ',' || c == '\x7b' || c == '\x7d' || c == '[' || c == ']'

/-- Whether a character may stand in a name without quotes. -/
def isNameCharacter (c : Char) : Bool := isLetter c || isDigit c || c == '_' || c == '-'

/-- What a word stands for: a number with a point, a number without one, or itself. -/
def word (cs : List Char) : Tree :=
  let s := trim (String.ofList cs)
  let cs := s.toList
  if cs.contains '.' && (Scientific.parse? cs).isSome then .fraction
  else match readUnsigned UInt64.size cs, cs with
    | .ok n, _ => .integer n
    | .error _, '-' :: digits => match natOfDigits? digits with
      | some n => if 2 * n ≤ UInt64.size then .integer (-(n : Int)) else .text s
      | none => .text s
    | .error _, _ => .text s

/-- Reads the name of an entry. -/
def name? (cs : List Char) : Option (String × List Char) :=
  match cs with
  | '"' :: rest => (quoted? rest).map fun (text, rest) => (String.ofList text, rest)
  | cs =>
    let name := cs.takeWhile isNameCharacter
    if name.isEmpty then none else some (String.ofList name, cs.drop name.length)

mutual

/-- Reads a value and the blanks around it. -/
def value? : (fuel : Nat) → List Char → Option (Tree × List Char)
  | 0, _ => none
  | fuel + 1, cs => do
    let cs := skipSpaces cs
    let (t, rest) ← match afterStart? "true".toList cs, afterStart? "false".toList cs, cs with
      | some rest, _, _ => some (Tree.bool true, rest)
      | none, some rest, _ => some (.bool false, rest)
      | none, none, '\x7b' :: rest =>
        (entries? fuel rest).map fun (l, rest) =>
          (.map (l.foldl (fun m (n, t) => Tree.set m n t) []), rest)
      | none, none, '[' :: rest => (items? fuel rest).map fun (l, rest) => (.list l, rest)
      | none, none, '"' :: rest =>
        (quoted? rest).map fun (text, rest) => (.text (String.ofList text), rest)
      | none, none, '\x27' :: x :: '\x27' :: rest => some (.text (String.singleton x), rest)
      | none, none, '\x27' :: _ => none
      | none, none, cs =>
        some (word (cs.takeWhile (!isSeparator ·)), cs.dropWhile (!isSeparator ·))
    return (t, skipSpaces rest)

/-- Reads the items of a list after its opening bracket. -/
def items? : (fuel : Nat) → List Char → Option (List Tree × List Char)
  | 0, _ => none
  | _ + 1, ']' :: rest => some ([], rest)
  | fuel + 1, cs => do
    let (t, rest) ← value? fuel cs
    match rest with
    | ',' :: rest => do
      let (l, rest) ← items? fuel rest
      return (t :: l, rest)
    | ']' :: rest => return ([t], rest)
    | _ => none

/-- Reads the entries of a map after its opening brace. -/
def entries? : (fuel : Nat) → List Char → Option (List (String × Tree) × List Char)
  | 0, _ => none
  | _ + 1, '\x7d' :: rest => some ([], rest)
  | fuel + 1, cs => do
    let (name, rest) ← name? (skipSpaces cs)
    let '=' :: rest := skipSpaces rest | none
    let (t, rest) ← value? fuel rest
    match rest with
    | ',' :: rest => do
      let (l, rest) ← entries? fuel rest
      return ((name, t) :: l, rest)
    | '\x7d' :: rest => return ([(name, t)], rest)
    | _ => none

end

/-- What the value of a variable means. -/
def meaning (s : String) : Tree :=
  match value? (s.length + 2) s.toList with
  | some (t, []) => t
  | _ => .text s

/-! ## Names -/

/-- The text with a point for every two underscores. -/
def pointed : List Char → List Char
  | '_' :: '_' :: rest => '.' :: pointed rest
  | c :: rest => c :: pointed rest
  | [] => []

/-- The way to the setting that a variable is, if it is one. -/
def path? (name : String) : Option (List String) :=
  let cs := (trim name).toList
  match afterStart? "aaa_".toList ((cs.take 4).map lowerAscii) with
  | none => none
  | some _ =>
    let steps := splitOn (· == '.') (pointed (cs.drop 4))
    if steps.any (·.isEmpty) then none
    else some (steps.map fun step => String.ofList (step.map lowerAscii))

/-- A value at the end of a way. -/
def nested (t : Tree) : List String → Tree
  | [] => t
  | step :: rest => .map [(step, nested t rest)]

end Written

/-- The settings in variables; a later variable is laid over an earlier one. -/
def Variables.settings (v : Variables) : Tree :=
  v.foldl
    (fun t (name, s) => match Written.path? name with
      | some path => t.overlay (Written.nested (Written.meaning s) path)
      | none => t)
    (.map [])

end Gatehouse.Settings
