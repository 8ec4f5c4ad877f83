import Gatehouse.Settings.Variables
import Gatehouse.Text.AlphanumericTable
import Gatehouse.Text.Lowercase
/-!
Files of variables: lines with a name and a value, comments, and values in quotes that may go on
over several lines. A value may refer to other variables. A variable that has a value already keeps
it, and the first line that cannot be read ends the file.
-/

namespace Gatehouse.Settings.VariableFile

open Text

/-- Whether a character may stand in a reference to a variable. -/
def isAlphanumeric (c : Char) : Bool := inRanges alphanumericRanges c.toNat

/-! ## Lines -/

/-- Where in a line a character stands, as far as quotes and comments go. -/
inductive Position
  | bare
  /-- After a blank, where a comment may start. -/
  | blank
  | escaped
  | single
  | singleEscaped
  | double
  | doubleEscaped
deriving DecidableEq

/-- The position after a character; none when a comment starts with it. -/
def Position.next (p : Position) (c : Char) : Option Position :=
  let opening (other : Position) : Position :=
    match c with
    | '\\' => .escaped
    | '"' => .double
    | '\x27' => .single
    | _ => other
  match p with
  | .blank => if c == '#' then none else some (opening .bare)
  | .bare => some (opening (if isBlank c && c != '\n' && c != '\r' then .blank else .bare))
  | .escaped => some .bare
  | .double => some (if c == '\\' then .doubleEscaped else if c == '"' then .bare else .double)
  | .doubleEscaped => some .double
  | .single => some (if c == '\\' then .singleEscaped else if c == '\x27' then .bare else .single)
  | .singleEscaped => some .single

/-- The part of a line before its comment, and the position after the line if it has none. -/
def beforeComment (p : Position) : List Char → List Char × Option Position
  | [] => ([], some p)
  | c :: rest => match p.next c with
    | none => ([], none)
    | some p =>
      let (kept, ending) := beforeComment p rest
      (c :: kept, ending)

def withoutEnd (cs : List Char) : List Char :=
  match cs.reverse with
  | '\n' :: '\r' :: rest => rest.reverse
  | '\n' :: rest => rest.reverse
  | _ => cs

def isComment (cs : List Char) : Bool := (cs.dropWhile isBlank).head? == some '#'

/-- Joins the lines that a value goes on over, after some that have been read. There is nothing to
read in the end of a file where a line should go on. -/
def joined (before : List Char) (p : Position) : List (List Char) → List (Option (List Char))
  | [] => if p = .bare then [] else [none]
  | line :: rest =>
    if isComment (before ++ line) then joined [] .bare rest
    else match beforeComment p line with
      | (kept, none) => some (before ++ kept) :: joined [] .bare rest
      | (_, some .bare) => some (withoutEnd (before ++ line)) :: joined [] .bare rest
      | (_, some p) => joined (before ++ line) p rest

/-- The lines of a text, with their ends. -/
def physical : List Char → List (List Char)
  | [] => []
  | c :: rest =>
    if c == '\n' then [c] :: physical rest
    else match physical rest with
      | [] => [[c]]
      | line :: lines => (c :: line) :: lines

/-- The lines of a text; a mark of its byte order does not count. -/
def lines (cs : List Char) : List (Option (List Char)) :=
  joined [] .bare (physical ((afterStart? ['\ufeff'] cs).getD cs))

/-! ## Values -/

/-- Where in a value a character stands. -/
inductive Place
  | bare
  | single
  | double
  | escaped (inDouble : Bool)
  /-- In the name of a variable that is referred to. -/
  | name (inDouble : Bool) (soFar : List Char)
  /-- In the name of a variable between braces. -/
  | braced (inDouble : Bool) (soFar : List Char)
  /-- After the value, where only a comment may follow. -/
  | after

/-- The place of text that is inside double quotes or outside of quotes. -/
def Place.text (inDouble : Bool) : Place := if inDouble then .double else .bare

/-- The characters that may be escaped, and what they stand for. -/
def escapes : List (Char × Char) :=
  [('\\', '\\'), ('\x27', '\x27'), ('"', '"'), ('$', '$'), (' ', ' '), ('n', '\n')]

/-- Reads a value; a variable that is referred to and has no value is empty. -/
def value (v : Variables) : Place → List Char → Option (List Char)
  | .single, [] | .double, [] | .escaped true, [] | .name true _, [] | .braced _ _, [] => none
  | .name false soFar, [] => some (look soFar)
  | .bare, [] | .escaped false, [] | .after, [] => some []
  | .after, c :: rest =>
    if c == ' ' || c == '\t' then value v .after rest
    else if c == '#' then some []
    else none
  | .escaped inDouble, c :: rest => do
    let x ← escapes.lookup c
    return x :: (← value v (.text inDouble) rest)
  | .single, c :: rest =>
    if c == '\x27' then value v .bare rest else (value v .single rest).map (c :: ·)
  | .name inDouble soFar, c :: rest =>
    if isAlphanumeric c then value v (.name inDouble (soFar ++ [c])) rest
    else if c == '\x7b' && soFar.isEmpty then value v (.braced inDouble []) rest
    else if c == '$' then (value v (.name inDouble []) rest).map (look soFar ++ ·)
    else (value v (.text inDouble) rest).map (look soFar ++ c :: ·)
  | .braced inDouble soFar, c :: rest =>
    if c == '\x7d' then (value v (.text inDouble) rest).map (look soFar ++ ·)
    else value v (.braced inDouble (soFar ++ [c])) rest
  | .double, c :: rest =>
    if c == '$' then value v (.name true []) rest
    else if c == '"' then value v .bare rest
    else if c == '\\' then value v (.escaped true) rest
    else (value v .double rest).map (c :: ·)
  | .bare, c :: rest =>
    if c == '$' then value v (.name false []) rest
    else if c == '\x27' then value v .single rest
    else if c == '"' then value v .double rest
    else if c == '\\' then value v (.escaped false) rest
    else if c == ' ' || c == '\t' then value v .after rest
    else (value v .bare rest).map (c :: ·)
where
  /-- The value of a variable that is referred to. -/
  look (name : List Char) : List Char := ((v.get? (String.ofList name)).getD "").toList

/-! ## Assignments -/

/-- Reads a name, and what follows it. -/
def name? (cs : List Char) : Option (List Char × List Char) :=
  if cs.head?.any fun c => isLetter c || c == '_' then
    some (cs.span fun c => isLetter c || isDigit c || c == '_' || c == '.')
  else none

/-- What follows an equals sign and the blanks around it. -/
def afterEquals? (cs : List Char) : Option (List Char) :=
  match cs.dropWhile isBlank with
  | '=' :: rest => some (rest.dropWhile isBlank)
  | _ => none

/-- Reads the name of an assignment and what follows its equals sign. A name may be exported, and a
variable may have the name of that very word. -/
def target? (cs : List Char) : Option (List Char × List Char) := do
  let (name, rest) ← name? cs
  match afterEquals? rest with
  | some value => return (name, value)
  | none =>
    if String.ofList name == "export" then
      let (name, rest) ← name? (rest.dropWhile isBlank)
      return (name, ← afterEquals? rest)
    else none

/-- Reads a line: an assignment, or nothing. -/
def assignment? (v : Variables) (line : List Char) : Option (Option (String × String)) :=
  let cs := dropEndWhile isBlank (line.dropWhile isBlank)
  if cs.isEmpty || cs.head? == some '#' then some none
  else do
    let (name, rest) ← target? cs
    let text ← if rest.isEmpty || rest.head? == some '#' then some [] else value v .bare rest
    return some (String.ofList name, String.ofList text)

/-- Loads lines up to the first one that cannot be read. -/
def loadLines (v : Variables) : List (Option (List Char)) → Variables
  | [] => v
  | none :: _ => v
  | some line :: rest => match assignment? v line with
    | none => v
    | some none => loadLines v rest
    | some (some (name, value)) => loadLines (v.setIfUnset name value) rest

def load (v : Variables) (s : String) : Variables := loadLines v (lines s.toList)

end Gatehouse.Settings.VariableFile
