import Gatehouse.Encoding.Hex
import Gatehouse.Yaml.Cursor
/-!
Reading scalars: texts between quotes, plain texts, and texts of whole lines. Inside a scalar that
is written over several lines a single line break stands for a space, and of several line breaks in
a row the first one is dropped.
-/

namespace Gatehouse.Yaml

open Encoding

/-! ## Gaps between words -/

/-- What stands between two words of a scalar: blanks within a line, or line breaks with blanks
around them. The first break is missing when it is escaped. -/
inductive Gap
  | blanks (l : List Char)
  | breaks (first : Option Char) (more : List Char)
deriving DecidableEq

namespace Gap

def none : Gap := .blanks []

def text : Gap → List Char
  | .blanks l => l
  | .breaks (some '\n') [] => [' ']
  | .breaks (some '\n') more => more
  | .breaks first more => first.toList ++ more

def hasBreak : Gap → Bool
  | .blanks _ => false
  | .breaks _ _ => true

/-- Reads on in a gap. A tab may not stand left of `margin` at the start of a line. -/
def read (margin : Nat) : (fuel : Nat) → Gap → Cursor → Option (Gap × Cursor)
  | 0, g, c => some (g, c)
  | fuel + 1, g, c =>
    if c.isAtBlank then
      match g with
      | .blanks l => read margin fuel (.blanks (l ++ c.peek?.toList)) (c.advance 1)
      | .breaks _ _ =>
        if c.column < margin && c.isAt '\t' then Option.none else read margin fuel g (c.advance 1)
    else if c.isAtBreak then
      let g := match g with
        | .blanks _ => .breaks (some c.breakCharacter) []
        | .breaks first more => .breaks first (more ++ [c.breakCharacter])
      read margin fuel g c.nextLine
    else some (g, c)

end Gap

/-! ## Quoted scalars -/

/-- The two kinds of quotes. -/
inductive Quote
  | single
  | double
deriving DecidableEq

def Quote.character : Quote → Char
  | .single => '\x27'
  | .double => '"'

/-- The character with a code, unless it is half of one or none. -/
def character? (n : Nat) : Option Char :=
  if h : n.isValidChar then some (Char.ofNatAux n h) else none

def shortEscapes : List (Char × Char) :=
  [('0', '\x00'), ('a', '\x07'), ('b', '\x08'), ('t', '\t'), ('\t', '\t'), ('n', '\n'),
    ('v', '\x0b'), ('f', '\x0c'), ('r', '\r'), ('e', '\x1b'), (' ', ' '), ('"', '"'), ('/', '/'), ('\\', '\\'),
    ('N', '\x85'), ('_', '\xa0'), ('L', '\u2028'), ('P', '\u2029')]

/-- How many digits an escaped code has. -/
def codeLength? : Char → Option Nat
  | 'x' => some 2
  | 'u' => some 4
  | 'U' => some 8
  | _ => none

/-- Reads what follows a backslash: the character that it stands for, and the length of the escape.
-/
def escape? : List Char → Option (Char × Nat)
  | [] => none
  | e :: rest => match shortEscapes.lookup e with
    | some c => some (c, 1)
    | none => do
      let length ← codeLength? e
      let digits := rest.take length
      if digits.length < length then none
      else
        let c ← character? (← hexNumber? digits)
        return (c, length + 1)

/-- A word inside quotes: its text, whether it ends in an escaped line break, and the place after.
-/
structure Word where
  text : List Char
  escapesBreak : Bool
  after : Cursor

def quotedWord (q : Quote) : (fuel : Nat) → Cursor → Option Word
  | 0, c => some ⟨[], false, c⟩
  | fuel + 1, c =>
    let cons (x : Char) (w : Word) : Word := { w with text := x :: w.text }
    match c.rest with
    | [] => some ⟨[], false, c⟩
    | x :: rest =>
      if isBlank x || isBreak x then some ⟨[], false, c⟩
      else if x == q.character then
        if q = .single && rest.head? == some '\x27' then
          (quotedWord q fuel (c.advance 2)).map (cons x)
        else some ⟨[], false, c⟩
      else if q = .double && x == '\\' then
        if rest.head?.any isBreak then some ⟨[], true, (c.advance 1).nextLine⟩
        else match escape? rest with
          | some (e, length) => (quotedWord q fuel (c.advance (length + 1))).map (cons e)
          | none => none
      else (quotedWord q fuel (c.advance 1)).map (cons x)

/-- Reads a quoted scalar after its first quote. -/
def quotedFrom (q : Quote) : (fuel : Nat) → Cursor → Option (List Char × Cursor)
  | 0, _ => none
  | fuel + 1, c =>
    if c.isAtDocumentMark || c.rest.isEmpty then none
    else do
      let w ← quotedWord q c.rest.length c
      if w.after.isAt q.character then return (w.text, w.after.advance 1)
      let start : Gap := if w.escapesBreak then .breaks none [] else .none
      let (gap, c) ← start.read 0 w.after.rest.length w.after
      let (more, c) ← quotedFrom q fuel c
      return (w.text ++ gap.text ++ more, c)

/-- Reads a quoted scalar at its first quote. -/
def quoted (q : Quote) (c : Cursor) : Option (List Char × Cursor) :=
  quotedFrom q (c.rest.length + 1) (c.advance 1)

/-! ## Plain scalars -/

/-- The characters that end a plain scalar inside brackets or braces. -/
def isFlowIndicator (c : Char) : Bool :=
  c == ',' || c == '[' || c == ']' || c == '\x7b' || c == '\x7d'

/-- Reads a word of a plain scalar. Inside brackets or braces no colon may stand before one of them.
-/
def plainWord (inFlow : Bool) : (fuel : Nat) → Cursor → Option (List Char × Cursor)
  | 0, c => some ([], c)
  | fuel + 1, c =>
    match c.rest with
    | [] => some ([], c)
    | x :: rest =>
      if isBlank x || isBreak x then some ([], c)
      else if inFlow && x == ':' && rest.head?.any (fun y => isFlowIndicator y || y == '?') then
        none
      else if (x == ':' && isGap rest.head?) || (inFlow && isFlowIndicator x) then some ([], c)
      else (plainWord inFlow fuel (c.advance 1)).map fun (text, c) => (x :: text, c)

/-- Reads a plain scalar after a gap; tells whether it ends after a line break. -/
def plainFrom (inFlow : Bool) (margin : Nat) :
    (fuel : Nat) → Gap → Cursor → Option (List Char × Bool × Cursor)
  | 0, _, _ => none
  | fuel + 1, gap, c =>
    if c.isAtDocumentMark || c.isAt '#' then some ([], gap.hasBreak, c)
    else do
      let (word, c) ← plainWord inFlow c.rest.length c
      let text := if word.isEmpty then [] else gap.text ++ word
      let gap := if word.isEmpty then gap else .none
      if !c.isAtBlank && !c.isAtBreak then return (text, gap.hasBreak, c)
      let (gap, c) ← gap.read margin c.rest.length c
      if !inFlow && c.column < margin then return (text, gap.hasBreak, c)
      let (more, ended, c) ← plainFrom inFlow margin fuel gap c
      return (text ++ more, ended, c)

/-- Reads a plain scalar; tells whether it ends after a line break. -/
def plain (inFlow : Bool) (margin : Nat) (c : Cursor) : Option (List Char × Bool × Cursor) :=
  plainFrom inFlow margin (c.rest.length + 1) .none c

/-! ## Scalars of whole lines -/

/-- What becomes of the line breaks at the end. -/
inductive Chomping
  | strip
  | clip
  | keep
deriving DecidableEq

/-- The head of a scalar of whole lines. -/
structure BlockHead where
  chomping : Chomping
  /-- How much further than their surroundings the lines are indented, if it is said. -/
  increment : Option Nat

/-- Reads what becomes of the line breaks at the end, if it is said. -/
def chomping? (c : Cursor) : Option Chomping × Cursor :=
  if c.isAt '+' then (some .keep, c.advance 1)
  else if c.isAt '-' then (some .strip, c.advance 1)
  else (none, c)

/-- Reads an indentation, if it is said. It is not zero. -/
def increment? (c : Cursor) : Option (Option Nat × Cursor) :=
  match c.peek? with
  | some d =>
    if '1' ≤ d && d ≤ '9' then some (some (d.toNat - 48), c.advance 1)
    else if d == '0' then none
    else some (none, c)
  | none => some (none, c)

/-- Reads the head after its indicator; its two parts may stand in either order. -/
def blockHead (c : Cursor) : Option (BlockHead × Cursor) := do
  let (before, c) := chomping? c
  let (increment, c) ← increment? c
  let (after, c) := if before.isNone && increment.isSome then chomping? c else (none, c)
  return (⟨(before.or after).getD .clip, increment⟩, c)

/-- Reads empty lines up to a line with content. The indentation is that of the content; while it is
not known, the widest line counts. -/
def blockBreaks (indent : Option Nat) :
    (fuel widest : Nat) → Cursor → Option (List Char × Nat × Cursor)
  | 0, widest, c => some ([], widest, c)
  | fuel + 1, widest, c =>
    let isOutside (c : Cursor) : Bool := indent.all (c.column < ·)
    let width := match indent with
      | none => (c.rest.takeWhile (· == ' ')).length
      | some n => min (c.rest.takeWhile (· == ' ')).length (n - c.column)
    let c := c.advance width
    let widest := max widest c.column
    if isOutside c && c.isAt '\t' then none
    else if c.isAtBreak then
      (blockBreaks indent fuel widest c.nextLine).map fun (l, w, after) =>
        (c.breakCharacter :: l, w, after)
    else some ([], widest, c)

/-- Reads the lines of a scalar, each with the line break before it. `first` is that line break,
`more` the empty lines after it, and `wasBlank` tells whether the line before started with a blank.
-/
def blockLines (isLiteral : Bool) (chomping : Chomping) (indent : Nat) :
    (fuel : Nat) → (first : Option Char) → (more : List Char) → (wasBlank : Bool) → Cursor →
      Option (List Char × Cursor)
  | 0, _, _, _, _ => none
  | fuel + 1, first, more, wasBlank, c =>
    if c.column == indent && !c.rest.isEmpty then do
      let isBlankLine := c.isAtBlank
      let before :=
        if !isLiteral && first == some '\n' && !wasBlank && !isBlankLine then
          if more.isEmpty then [' '] else more
        else first.toList ++ more
      let (line, c) := c.span fun x => !isBreak x
      let next := if c.isAtBreak then some c.breakCharacter else none
      let c := if c.isAtBreak then c.nextLine else c
      let (breaks, _, c) ← blockBreaks (some indent) (c.rest.length + 1) 0 c
      let (rest, c) ← blockLines isLiteral chomping indent fuel next breaks isBlankLine c
      return (before ++ line ++ rest, c)
    else
      let last := if chomping = .strip then [] else first.toList
      let empty := if chomping = .keep then more else []
      some (last ++ empty, c)

/-- Reads a scalar of whole lines at its indicator; `margin` is the least column of what belongs to
the surroundings. -/
def block (isLiteral : Bool) (margin : Nat) (c : Cursor) : Option (List Char × Cursor) := do
  let (head, c) ← blockHead (c.advance 1)
  let c := (c.skip isBlank).skipComment
  if !c.rest.isEmpty && !c.isAtBreak then none
  else
    let c := if c.isAtBreak then c.nextLine else c
    let indent := head.increment.map (margin - 1 + ·)
    let (breaks, widest, c) ← blockBreaks indent (c.rest.length + 1) 0 c
    let indent := indent.getD (max (max widest margin) 1)
    blockLines isLiteral head.chomping indent (c.rest.length + 1) none breaks false c

end Gatehouse.Yaml
