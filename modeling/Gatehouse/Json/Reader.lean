import Gatehouse.Encoding.Hex
import Gatehouse.Json.Draft
import Gatehouse.Text.Decimal
/-!
Reading a text into a draft.
-/

namespace Gatehouse.Json

open Text Encoding

/-- The blanks that may stand between tokens. -/
def isSpace (c : Char) : Bool := c == ' ' || c == '\n' || c == '\t' || c == '\r'

/-- The text after the blanks at its start. -/
def skipSpaces (cs : List Char) : List Char := cs.dropWhile isSpace

/-! ## Texts -/

/-- A part of a text literal: a character, or an escaped code unit that is half of one. -/
inductive Symbol
  | char (c : Char)
  | half (unit : Nat)
deriving DecidableEq

def Symbol.ofUnit (n : Nat) : Symbol :=
  if 0xD800 ≤ n && n ≤ 0xDFFF then .half n else .char (Char.ofNat n)

/-- What stands after an opening quote: symbols up to the closing quote or a flaw. -/
structure Literal where
  symbols : List Symbol
  ending : Option Flaw
  rest : List Char

def Literal.cons (s : Symbol) (l : Literal) : Literal := { l with symbols := s :: l.symbols }

def Literal.stop (f : Flaw) : Literal := ⟨[], some f, []⟩

def shortEscape? : Char → Option Char
  | '"' => some '"'
  | '\\' => some '\\'
  | '/' => some '/'
  | 'b' => some '\x08'
  | 'f' => some '\x0c'
  | 'n' => some '\n'
  | 'r' => some '\r'
  | 't' => some '\t'
  | _ => none

/-- Whether fewer than four bytes are left. -/
def isShort (cs : List Char) : Bool := cs.foldr (fun c n => c.utf8Size + n) 0 < 4

/-- Reads a literal after its opening quote. -/
def literal : List Char → Literal
  | [] => .stop .truncated
  | '"' :: r => ⟨[], none, r⟩
  | '\\' :: 'u' :: a :: b :: c :: d :: r =>
    match hexNumber? [a, b, c, d] with
    | some n => (literal r).cons (.ofUnit n)
    | none => .stop .malformed
  | '\\' :: 'u' :: r => .stop (if isShort r then .truncated else .malformed)
  | '\\' :: e :: r =>
    match shortEscape? e with
    | some c => (literal r).cons (.char c)
    | none => .stop .malformed
  | ['\\'] => .stop .truncated
  | c :: r => if c.toNat < 0x20 then .stop .malformed else (literal r).cons (.char c)

/-- Joins the halves of characters. A half without its partner makes the text unreadable. -/
def joinSymbols (ending : Option Flaw) : List Symbol → Except Flaw (List Char)
  | [] => match ending with
    | none => .ok []
    | some f => .error f
  | .char c :: r => (joinSymbols ending r).map (c :: ·)
  | [.half n] => .error (if n < 0xDC00 then ending.getD .malformed else .malformed)
  | .half n :: .half m :: r =>
    if n < 0xDC00 && 0xDC00 ≤ m then
      (joinSymbols ending r).map
        (Char.ofNat (0x10000 + (n - 0xD800) * 0x400 + (m - 0xDC00)) :: ·)
    else .error .malformed
  | .half _ :: .char _ :: _ => .error .malformed

def Literal.content (l : Literal) : Except Flaw String :=
  (joinSymbols l.ending l.symbols).map String.ofList

/-! ## Numbers and words -/

/-- The flaw of a text that should go on with a digit. -/
def missingDigit : List Char → Flaw
  | [] => .truncated
  | _ => .malformed

/-- The number that digits denote, appended to the digits of another one. -/
def appendDigits (n : Nat) (ds : List Char) : Nat := ds.foldl (fun n c => 10 * n + digitValue c) n

/-- Reads the exponent of a number, its letter apart. -/
def exponent (cs : List Char) : Except Flaw (Int × List Char) :=
  let (negative, cs) := match cs with
    | '+' :: r => (false, r)
    | '-' :: r => (true, r)
    | r => (false, r)
  let ds := cs.takeWhile isDigit
  if ds.isEmpty then .error (missingDigit cs)
  else
    let n : Int := appendDigits 0 ds
    .ok (if negative then -n else n, cs.dropWhile isDigit)

/-- Reads what may follow the integer digits of a number. -/
def afterInteger (negative : Bool) (n : Nat) (cs : List Char) : Except Flaw (Numeral × List Char) :=
  match cs with
  | '.' :: r =>
    let ds := r.takeWhile isDigit
    let r := r.dropWhile isDigit
    if ds.isEmpty then .error (missingDigit r)
    else
      let n := appendDigits n ds
      match r with
      | 'e' :: r | 'E' :: r =>
        (exponent r).map fun (e, r) => (⟨negative, n, e - ds.length, false⟩, r)
      | r => .ok (⟨negative, n, -ds.length, false⟩, r)
  | 'e' :: r | 'E' :: r => (exponent r).map fun (e, r) => (⟨negative, n, e, false⟩, r)
  | r => .ok (⟨negative, n, 0, true⟩, r)

/-- Reads a number after its sign. A zero may not be followed by another digit. -/
def magnitude (negative : Bool) (cs : List Char) : Except Flaw (Numeral × List Char) :=
  match cs with
  | '0' :: r =>
    match r with
    | c :: _ => if isDigit c then .error .malformed else afterInteger negative 0 r
    | [] => afterInteger negative 0 r
  | cs =>
    let ds := cs.takeWhile isDigit
    if ds.isEmpty then .error (missingDigit cs)
    else afterInteger negative (appendDigits 0 ds) (cs.dropWhile isDigit)

/-- The draft of a number, from what reading it has given. -/
def numberDraft : Except Flaw (Numeral × List Char) → Draft × List Char
  | .ok (n, r) => (.number n, r)
  | .error f => (.broken f, [])

/-- Reads the rest of one of the words of the language. -/
def word (d : Draft) : (letters cs : List Char) → Draft × List Char
  | [], cs => (d, cs)
  | _ :: _, [] => (.broken .truncated, [])
  | l :: ls, c :: cs => if l = c then word d ls cs else (.broken .malformed, [])

/-! ## Values -/

mutual

/-- Reads a value. Every step of the recursion reads at least one character, so a `fuel` above the
length of the text is never used up. -/
def value (fuel : Nat) (cs : List Char) : Draft × List Char :=
  match fuel with
  | 0 => (.missing, [])
  | fuel + 1 =>
    match skipSpaces cs with
    | [] => (.missing, [])
    | 'n' :: r => word .null "ull".toList r
    | 't' :: r => word (.bool true) "rue".toList r
    | 'f' :: r => word (.bool false) "alse".toList r
    | '-' :: r => numberDraft (magnitude true r)
    | '"' :: r =>
      let l := literal r
      (.text l.content l.ending, l.rest)
    | '[' :: r =>
      let (items, ending, rest) := firstItem fuel r
      (.array items ending, rest)
    | '\x7b' :: r =>
      let (members, ending, rest) := firstMember fuel r
      (.object members ending, rest)
    | c :: r =>
      if isDigit c then numberDraft (magnitude false (c :: r)) else (.broken .malformed, [])

/-- Reads the items of an array after its bracket. -/
def firstItem (fuel : Nat) (cs : List Char) : List Draft × Option Flaw × List Char :=
  match fuel with
  | 0 => ([], some .truncated, [])
  | fuel + 1 =>
    match skipSpaces cs with
    | [] => ([], some .truncated, [])
    | ']' :: r => ([], none, r)
    | r =>
      let (d, r) := value fuel r
      let (ds, ending, r) := moreItems fuel r
      (d :: ds, ending, r)

/-- Reads the items of an array after one of them. -/
def moreItems (fuel : Nat) (cs : List Char) : List Draft × Option Flaw × List Char :=
  match fuel with
  | 0 => ([], some .truncated, [])
  | fuel + 1 =>
    match skipSpaces cs with
    | [] => ([], some .truncated, [])
    | ']' :: r => ([], none, r)
    | ',' :: r =>
      let (d, r) := value fuel r
      let (ds, ending, r) := moreItems fuel r
      (d :: ds, ending, r)
    | _ => ([], some .malformed, [])

/-- Reads the members of an object after its brace or after a comma. -/
def member (afterComma : Bool) (fuel : Nat) (cs : List Char) :
    List (Except Flaw String × Draft) × ObjectEnd Draft × List Char :=
  match fuel with
  | 0 => ([], .flawed afterComma .truncated, [])
  | fuel + 1 =>
    match skipSpaces cs with
    | [] => ([], .flawed afterComma .truncated, [])
    | '"' :: r =>
      let l := literal r
      match l.ending with
      | some f => ([(l.content, .broken f)], .flawed false f, [])
      | none =>
        match skipSpaces l.rest with
        | ':' :: r =>
          let (d, r) := value fuel r
          let (ms, ending, r) := moreMembers fuel r
          ((l.content, d) :: ms, ending, r)
        | [] => ([(l.content, .broken .truncated)], .flawed false .truncated, [])
        | _ => ([(l.content, .broken .malformed)], .flawed false .malformed, [])
    | '\x7d' :: _ => ([], .flawed afterComma .malformed, [])
    | r => ([], .strayKey afterComma (value fuel r).1, [])

/-- Reads the members of an object after its brace. -/
def firstMember (fuel : Nat) (cs : List Char) :
    List (Except Flaw String × Draft) × ObjectEnd Draft × List Char :=
  match fuel with
  | 0 => ([], .flawed false .truncated, [])
  | fuel + 1 =>
    match skipSpaces cs with
    | '\x7d' :: r => ([], .closed, r)
    | r => member false fuel r

/-- Reads the members of an object after one of them. -/
def moreMembers (fuel : Nat) (cs : List Char) :
    List (Except Flaw String × Draft) × ObjectEnd Draft × List Char :=
  match fuel with
  | 0 => ([], .flawed false .truncated, [])
  | fuel + 1 =>
    match skipSpaces cs with
    | [] => ([], .flawed false .truncated, [])
    | '\x7d' :: r => ([], .closed, r)
    | ',' :: r => member true fuel r
    | _ => ([], .flawed false .malformed, [])

end

/-- The draft of a text and what is left of the text after it. A value of the text takes at most
three steps of the recursion for each of its characters. -/
def read (cs : List Char) : Draft × List Char := value (3 * cs.length + 3) cs

end Gatehouse.Json
