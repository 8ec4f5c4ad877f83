import Gatehouse.Yaml.Scalar
/-!
The tokens of a text. Indentation becomes tokens that open and close blocks, and a scalar in front
of a colon turns out to be a key only when the colon is met: the token that says so is then put in
front of it. A text of which no tokens can be made yields none.
-/

namespace Gatehouse.Yaml

/-- A token. -/
inductive Token
  /-- A directive with the version of the language. -/
  | version (major minor : Nat)
  /-- A directive that says what a tag handle stands for. -/
  | tagHandle (handle stem : String)
  | documentStart
  | documentEnd
  | blockSequence
  | blockMapping
  | blockEnd
  | flowSequence
  | flowSequenceEnd
  | flowMapping
  | flowMappingEnd
  /-- The indicator of an entry in a block. -/
  | entry
  /-- The comma between entries inside brackets or braces. -/
  | comma
  | key
  | value
  | alias (name : String)
  | anchor (name : String)
  | tag (handle suffix : String)
  | scalar (text : String) (isPlain : Bool)
deriving DecidableEq, Repr

/-! ## Names and directives -/

/-- Reads the name of an anchor after its indicator. -/
def anchorName (c : Cursor) : Option (String × Cursor) :=
  let (name, c) := c.span isNameCharacter
  let isEnd := isGap c.peek? ||
    c.peek?.any fun x => ['?', ':', ',', ']', '\x7d', '%', '@', '\x60'].contains x
  if name.isEmpty || !isEnd then none else some (String.ofList name, c)

/-- Whether a character may stand in a tag; `isWide` tells whether commas and brackets may. -/
def isTagCharacter (isWide : Bool) (c : Char) : Bool :=
  isNameCharacter c || ";/?:@&=+$.%!~*\x27()".toList.contains c ||
    (isWide && [',', '[', ']'].contains c)

/-- Reads the characters of a tag, of which escaped ones are bytes. -/
def tagText (isWide : Bool) (c : Cursor) : Option (String × Cursor) := do
  let (text, c) := c.span (isTagCharacter isWide)
  let bytes ← decode text
  return (← String.fromUTF8? (ByteArray.mk bytes.toArray), c)
where
  /-- The bytes of a text with escaped ones. -/
  decode : List Char → Option (List UInt8)
    | [] => some []
    | '%' :: a :: b :: rest => do
      let n ← Encoding.hexNumber? [a, b]
      return UInt8.ofNat n :: (← decode rest)
    | '%' :: _ => none
    | x :: rest => (decode rest).map ((String.singleton x).toUTF8.toList ++ ·)

/-- Reads a tag handle: names between exclamation marks, or one mark alone. -/
def handle (c : Cursor) : Option (String × Cursor) :=
  if c.isAt '!' then
    let (name, c) := (c.advance 1).span isNameCharacter
    if c.isAt '!' then some ("!" ++ String.ofList name ++ "!", c.advance 1)
    else some ("!" ++ String.ofList name, c)
  else none

def tag (inFlow : Bool) (c : Cursor) : Option (Token × Cursor) := do
  let (handle, suffix, c) ← parts
  if isGap c.peek? || (inFlow && c.isAt ',') then return (.tag handle suffix, c) else none
where
  /-- The handle and the rest of a tag. -/
  parts : Option (String × String × Cursor) := do
    if c.second? == some '<' then
      let (text, c) ← tagText true (c.advance 2)
      if text.isEmpty || !c.isAt '>' then none else return ("", text, c.advance 1)
    else
      let (h, after) ← Yaml.handle c
      if h.length ≥ 2 && h.endsWith "!" then
        let (suffix, after) ← tagText false after
        if suffix.isEmpty then none else return (h, suffix, after)
      else
        let (more, after) ← tagText false after
        let suffix := (h.drop 1).toString ++ more
        return if suffix.isEmpty then ("", "!", after) else ("!", suffix, after)

def versionNumber (c : Cursor) : Option (Nat × Cursor) :=
  let (digits, c) := c.span fun x => '0' ≤ x && x ≤ '9'
  if digits.isEmpty || 9 < digits.length then none
  else some (digits.foldl (fun n d => 10 * n + (d.toNat - 48)) 0, c)

def directiveValue (name : String) (c : Cursor) : Option (Token × Cursor) := do
  let c := c.skip isBlank
  if name == "YAML" then
    let (major, c) ← versionNumber c
    if !c.isAt '.' then none
    let (minor, c) ← versionNumber (c.advance 1)
    return (.version major minor, c)
  else if name == "TAG" then
    let (h, c) ← handle c
    if !(h == "!" || (h.length ≥ 2 && h.endsWith "!")) || !c.isAtBlank then none
    let (stem, c) ← tagText true (c.skip isBlank)
    if stem.isEmpty || !isGap c.peek? then none
    return (.tagHandle h stem, c)
  else none

/-- Reads a directive at its indicator, up to the end of its line. -/
def directive (c : Cursor) : Option (Token × Cursor) := do
  let (name, c) := (c.advance 1).span isNameCharacter
  if name.isEmpty || !isGap c.peek? then none
  let (token, c) ← directiveValue (String.ofList name) c
  let c := (c.skip isBlank).skipComment
  if c.rest.isEmpty then return (token, c)
  else if c.isAtBreak then return (token, c.nextLine)
  else none

/-! ## The state of reading -/

/-- A place where a key may have started: the number of the token there, and whether it has to be a
key because nothing else may start where it does. -/
structure KeyStart where
  token : Nat
  place : Cursor
  isRequired : Bool

/-- The state of reading tokens. -/
structure Lexer where
  cursor : Cursor
  tokens : List Token := []
  /-- The least column of what belongs to the innermost block. -/
  margin : Nat := 0
  /-- The margins of the blocks around it. -/
  outer : List Nat := []
  /-- Where a key may have started, for the innermost brackets and all around them. -/
  keys : List (Option KeyStart) := [none]
  /-- Whether a key may start here. -/
  allowsKey : Bool := true

namespace Lexer

/-- Whether the place is inside brackets or braces. -/
def inFlow (l : Lexer) : Bool := 1 < l.keys.length

/-- Adds a token at the end. -/
def emit (l : Lexer) (t : Token) : Lexer := { l with tokens := l.tokens ++ [t] }

/-- Adds a token in front of the one with a number. -/
def insert (l : Lexer) (n : Nat) (t : Token) : Lexer :=
  { l with tokens := l.tokens.insertIdx n t }

/-- Goes on to another place. -/
def moveTo (l : Lexer) (c : Cursor) : Lexer := { l with cursor := c }

/-- The innermost place where a key may have started. -/
def candidate? (l : Lexer) : Option KeyStart := l.keys.head?.join

/-- Replaces the innermost place where a key may have started. -/
def setCandidate (l : Lexer) (k : Option KeyStart) : Lexer := { l with keys := k :: l.keys.tail }

/-- Gives up the place where a key may have started, which must not be one that has to be a key. -/
def dropCandidate (l : Lexer) : Option Lexer :=
  if l.candidate?.any (·.isRequired) then none else some (l.setCandidate none)

/-- Remembers that a key may start here. -/
def markCandidate (l : Lexer) : Option Lexer :=
  if l.allowsKey then do
    let isRequired := !l.inFlow && l.margin == l.cursor.column + 1
    let l ← l.dropCandidate
    return l.setCandidate (some ⟨l.tokens.length, l.cursor, isRequired⟩)
  else some l

/-- Whether a key that started at a place may not end here: keys keep to one line, and are short. -/
def isStale (l : Lexer) (k : KeyStart) : Bool :=
  k.place.line < l.cursor.line || k.place.index + 1024 < l.cursor.index

/-- Gives up all places where a key may have started too long ago. -/
def dropStale (l : Lexer) : Option Lexer := do
  let keys ← l.keys.mapM fun key => match key with
    | some k => if l.isStale k then (if k.isRequired then none else some none) else some (some k)
    | none => some none
  return { l with keys }

/-- Opens a block at a column if it lies further in than the innermost one; its token goes in front
of the one with the number. -/
def openBlock (l : Lexer) (column number : Nat) (t : Token) : Lexer :=
  if !l.inFlow && l.margin ≤ column then
    { l.insert number t with margin := column + 1, outer := l.margin :: l.outer }
  else l

/-- Closes the blocks that lie further in than a margin. -/
def closeBlocks (margin : Nat) : (outer : List Nat) → Lexer → Lexer
  | [], l => l
  | m :: outer, l =>
    if margin < l.margin then
      closeBlocks margin outer { l.emit .blockEnd with margin := m, outer }
    else l

/-- Closes the blocks that do not go on in this column. -/
def closeTo (l : Lexer) (column : Nat) : Lexer :=
  if l.inFlow then l else closeBlocks (column + 1) l.outer l

def closeAll (l : Lexer) : Lexer := if l.inFlow then l else closeBlocks 0 l.outer l

/-- Passes over blanks, comments and line ends. Tabs may not stand where a key may start. -/
def skipGap : (fuel : Nat) → Lexer → Lexer
  | 0, l => l
  | fuel + 1, l =>
    let isPassed (x : Char) : Bool := x == ' ' || ((l.inFlow || !l.allowsKey) && x == '\t')
    let c := (l.cursor.skip isPassed).skipComment
    if c.isAtBreak then
      skipGap fuel { l with cursor := c.nextLine, allowsKey := l.allowsKey || !l.inFlow }
    else l.moveTo c

/-! ## One token -/

/-- Reads a token that cannot be part of a key and stands for itself. -/
def punctuation (l : Lexer) (t : Token) (length : Nat) (allowsKey : Bool) : Option Lexer := do
  let l ← l.dropCandidate
  return { l.emit t with cursor := l.cursor.advance length, allowsKey }

/-- Opens brackets or braces. -/
def openFlow (l : Lexer) (t : Token) : Option Lexer := do
  let l ← l.markCandidate
  return { l.emit t with
    cursor := l.cursor.advance 1, keys := none :: l.keys, allowsKey := true }

/-- Closes brackets or braces. -/
def closeFlow (l : Lexer) (t : Token) : Option Lexer := do
  let l ← l.punctuation t 1 false
  return if l.inFlow then { l with keys := l.keys.tail } else l

/-- Reads the indicator of an entry in a block. -/
def entry (l : Lexer) : Option Lexer :=
  if !l.inFlow && !l.allowsKey then none
  else (l.openBlock l.cursor.column l.tokens.length .blockSequence).punctuation .entry 1 true

/-- Reads the indicator of a key. -/
def key (l : Lexer) : Option Lexer :=
  if !l.inFlow && !l.allowsKey then none
  else (l.openBlock l.cursor.column l.tokens.length .blockMapping).punctuation .key 1 (!l.inFlow)

/-- Reads the indicator of a value, which may make a key of what stands before it. -/
def value (l : Lexer) : Option Lexer := do
  let l ← match l.candidate? with
    | some k =>
      let l := (l.insert k.token .key).openBlock k.place.column k.token .blockMapping
      some { l.setCandidate none with allowsKey := false }
    | none =>
      if !l.inFlow && !l.allowsKey then none
      else
        let l := l.openBlock l.cursor.column l.tokens.length .blockMapping
        some { l with allowsKey := !l.inFlow }
  return (l.emit .value).moveTo (l.cursor.advance 1)

/-- Reads something that may be part of a key. -/
def keyPart (l : Lexer) (read : Cursor → Option (Token × Cursor)) : Option Lexer := do
  let l ← l.markCandidate
  let (t, c) ← read l.cursor
  return { l.emit t with cursor := c, allowsKey := false }

/-- Reads a scalar of whole lines. -/
def lines (l : Lexer) (isLiteral : Bool) : Option Lexer := do
  let l ← l.dropCandidate
  let (text, c) ← block isLiteral l.margin l.cursor
  return { l.emit (.scalar (String.ofList text) false) with cursor := c, allowsKey := true }

/-- Reads a plain scalar. After one that ends with its line a key may start. -/
def plainScalar (l : Lexer) : Option Lexer := do
  let l ← l.markCandidate
  let (text, endsLine, c) ← plain l.inFlow l.margin l.cursor
  return { l.emit (.scalar (String.ofList text) true) with cursor := c, allowsKey := endsLine }

def separator (l : Lexer) (read : Cursor → Option (Token × Cursor)) : Option Lexer := do
  let l ← l.closeAll.dropCandidate
  let (t, c) ← read l.cursor
  return { l.emit t with cursor := c, allowsKey := false }

/-- The characters that cannot start a plain scalar. -/
def indicators : List Char :=
  ['-', '?', ':', ',', '[', ']', '\x7b', '\x7d', '#', '&', '*', '!', '|', '>', '\x27', '"', '%',
    '@', '\x60']

def startsPlain (l : Lexer) (x : Char) : Bool :=
  let next := l.cursor.second?
  (!isBlank x && !isBreak x && !indicators.contains x) || (x == '-' && !next.any isBlank) ||
    (!l.inFlow && (x == '?' || x == ':') && !isGap next)

def token (l : Lexer) (x : Char) : Option Lexer :=
  let c := l.cursor
  let endsWord := isGap c.second?
  let mark (t : Token) : Cursor → Option (Token × Cursor) := fun c => some (t, c.advance 3)
  let named (f : String → Token) : Cursor → Option (Token × Cursor) := fun c =>
    (anchorName (c.advance 1)).map fun (name, c) => (f name, c)
  let quotedText (q : Quote) : Cursor → Option (Token × Cursor) := fun c =>
    (quoted q c).map fun (text, c) => (.scalar (String.ofList text) false, c)
  if c.column == 0 && x == '%' then l.separator directive
  else if c.isAtMark ['-', '-', '-'] then l.separator (mark .documentStart)
  else if c.isAtMark ['.', '.', '.'] then l.separator (mark .documentEnd)
  else if x == '[' then l.openFlow .flowSequence
  else if x == '\x7b' then l.openFlow .flowMapping
  else if x == ']' then l.closeFlow .flowSequenceEnd
  else if x == '\x7d' then l.closeFlow .flowMappingEnd
  else if x == ',' then l.punctuation .comma 1 true
  else if x == '-' && endsWord then l.entry
  else if x == '?' && (l.inFlow || endsWord) then l.key
  else if x == ':' && (l.inFlow || endsWord) then l.value
  else if x == '*' then l.keyPart (named .alias)
  else if x == '&' then l.keyPart (named .anchor)
  else if x == '!' then l.keyPart (Yaml.tag l.inFlow)
  else if x == '|' && !l.inFlow then l.lines true
  else if x == '>' && !l.inFlow then l.lines false
  else if x == '\x27' then l.keyPart (quotedText .single)
  else if x == '"' then l.keyPart (quotedText .double)
  else if l.startsPlain x then l.plainScalar
  else none

/-- Reads tokens to the end of the text. -/
def run : (fuel : Nat) → Lexer → Option (List Token)
  | 0, _ => none
  | fuel + 1, l => do
    let l ← (l.skipGap (l.cursor.rest.length + 1)).dropStale
    let l := l.closeTo l.cursor.column
    match l.cursor.peek? with
    | some x => run fuel (← l.token x)
    | none => return (← l.closeAll.dropCandidate).tokens

end Lexer

/-- The start of a text. A mark of its byte order is passed over, but takes up the first column. -/
def start (cs : List Char) : Cursor :=
  let c : Cursor := { rest := cs }
  if c.isAt '\ufeff' then c.advance 1 else c

def tokens (s : String) : Option (List Token) :=
  let cs := s.toList
  if cs.all isPrintable then Lexer.run (cs.length + 1) { cursor := start cs } else none

end Gatehouse.Yaml
