import Gatehouse.Yaml.Token
/-!
Documents as trees. A text holds at most one document; what stands where an alias does is what was
anchored under its name before. Tags are written out in full, as far as the text says what their
handles stand for.
-/

namespace Gatehouse.Yaml

/-- A node of a document. A scalar is plain when it has no quotes and is not made of whole lines. -/
inductive Node
  | scalar (tag : Option String) (text : String) (isPlain : Bool)
  | sequence (tag : Option String) (items : List Node)
  | mapping (tag : Option String) (entries : List (Node × Node))

namespace Node

/-- The node that stands where nothing is written. -/
def empty : Node := .scalar none "" true

mutual

/-- Whether collections are nested so deep at most. -/
def fits (depth : Nat) : Node → Bool
  | .scalar _ _ _ => true
  | .sequence _ items => match depth with
    | 0 => false
    | depth + 1 => itemsFit depth items
  | .mapping _ entries => match depth with
    | 0 => false
    | depth + 1 => entriesFit depth entries

/-- Whether items are nested so deep at most. -/
def itemsFit (depth : Nat) : List Node → Bool
  | [] => true
  | n :: rest => n.fits depth && itemsFit depth rest

/-- Whether the keys and values of entries are nested so deep at most. -/
def entriesFit (depth : Nat) : List (Node × Node) → Bool
  | [] => true
  | (k, v) :: rest => k.fits depth && v.fits depth && entriesFit depth rest

end

end Node

/-! ## From tokens to nodes -/

/-- What is known at some point of a document: what tag handles stand for, and what is anchored. A
name is taken before the node that it is given to has been read. -/
structure Context where
  handles : List (String × String)
  anchors : List (String × Option Node) := []

/-- Something read from tokens, what is known after it, and the tokens that follow. -/
abbrev Reading (α : Type) := α × Context × List Token

/-- The properties of a node. -/
structure Properties where
  anchor : Option String := none
  tag : Option (String × String) := none

/-- Reads the properties of a node: an anchor and a tag in either order. -/
def properties : List Token → Properties × List Token
  | .anchor a :: .tag h s :: rest => (⟨some a, some (h, s)⟩, rest)
  | .anchor a :: rest => (⟨some a, none⟩, rest)
  | .tag h s :: .anchor a :: rest => (⟨some a, some (h, s)⟩, rest)
  | .tag h s :: rest => (⟨none, some (h, s)⟩, rest)
  | rest => ({}, rest)

/-- The tag of a node in full. A tag with an unknown handle has none. -/
def Context.resolve (c : Context) : Option (String × String) → Option (Option String)
  | none => some none
  | some ("", suffix) => some (some suffix)
  | some (handle, suffix) => (c.handles.lookup handle).map fun stem => some (stem ++ suffix)

/-- Gives a name to what stands at a place, or to what is about to stand there. -/
def Context.bind (c : Context) (anchor : Option String) (node : Option Node) : Context :=
  match anchor with
  | some a => { c with anchors := (a, node) :: c.anchors }
  | none => c

/-- The kinds of tokens before which a node of a block is empty. -/
def endsBlockNode : Option Token → Bool
  | some .key | some .value | some .blockEnd => true
  | _ => false

mutual

/-- Reads a node. In a block it may be a block itself; as the value of a key it may also be a
sequence whose entries are not indented. -/
def node (inBlock mayDangle : Bool) : (fuel : Nat) → Context → List Token → Option (Reading Node)
  | 0, _, _ => none
  | _ + 1, c, .alias a :: rest => do
    let some (some n) := c.anchors.lookup a | none
    return (n, c, rest)
  | fuel + 1, c, tokens => do
    let (p, rest) := properties tokens
    let tag ← c.resolve p.tag
    let c := c.bind p.anchor none
    let (n, c, rest) ← content inBlock mayDangle fuel tag (p.anchor.isSome || p.tag.isSome) c rest
    return (n, c.bind p.anchor (some n), rest)

/-- Reads what follows the properties of a node, which is nothing if there are any. -/
def content (inBlock mayDangle : Bool) :
    (fuel : Nat) → Option String → (hasProperties : Bool) → Context → List Token →
      Option (Reading Node)
  | 0, _, _, _, _ => none
  | fuel + 1, tag, hasProperties, c, tokens =>
    match tokens, inBlock, mayDangle with
    | .entry :: _, _, true =>
      (danglingItems fuel c tokens).map fun (l, c, rest) => (.sequence tag l, c, rest)
    | .scalar text isPlain :: rest, _, _ =>
      let isForced := tag == some "!"
      some (.scalar (if isForced then none else tag) text isPlain, c, rest)
    | .flowSequence :: rest, _, _ =>
      (flowItems fuel true c rest).map fun (l, c, rest) => (.sequence tag l, c, rest)
    | .flowMapping :: rest, _, _ =>
      (flowEntries fuel true c rest).map fun (l, c, rest) => (.mapping tag l, c, rest)
    | .blockSequence :: rest, true, _ =>
      (blockItems fuel c rest).map fun (l, c, rest) => (.sequence tag l, c, rest)
    | .blockMapping :: rest, true, _ =>
      (blockEntries fuel c rest).map fun (l, c, rest) => (.mapping tag l, c, rest)
    | rest, _, _ => if hasProperties then some (.scalar tag "" true, c, rest) else none

def blockItems : (fuel : Nat) → Context → List Token → Option (Reading (List Node))
  | fuel + 1, c, .entry :: rest => do
    let isEmpty := match rest.head? with
      | some .entry | some .blockEnd => true
      | _ => false
    let (n, c, rest) ← if isEmpty then some (.empty, c, rest) else node true false fuel c rest
    let (l, c, rest) ← blockItems fuel c rest
    return (n :: l, c, rest)
  | _ + 1, c, .blockEnd :: rest => some ([], c, rest)
  | _, _, _ => none

/-- Reads entries that are not indented, up to anything else. -/
def danglingItems : (fuel : Nat) → Context → List Token → Option (Reading (List Node))
  | 0, _, _ => none
  | fuel + 1, c, .entry :: rest => do
    let isEmpty := endsBlockNode rest.head? || rest.head? == some .entry
    let (n, c, rest) ← if isEmpty then some (.empty, c, rest) else node true false fuel c rest
    let (l, c, rest) ← danglingItems fuel c rest
    return (n :: l, c, rest)
  | _ + 1, c, rest => some ([], c, rest)

def blockEntries : (fuel : Nat) → Context → List Token → Option (Reading (List (Node × Node)))
  | fuel + 1, c, .key :: rest => do
    let (k, c, rest) ←
      if endsBlockNode rest.head? then some (.empty, c, rest) else node true true fuel c rest
    let (v, c, rest) ← match rest with
      | .value :: rest =>
        if endsBlockNode rest.head? then some (.empty, c, rest) else node true true fuel c rest
      | rest => some (.empty, c, rest)
    let (l, c, rest) ← blockEntries fuel c rest
    return ((k, v) :: l, c, rest)
  | _ + 1, c, .blockEnd :: rest => some ([], c, rest)
  | _, _, _ => none

/-- Reads a node inside brackets or braces, which is empty before some tokens. -/
def flowNode (isEnd : Token → Bool) : (fuel : Nat) → Context → List Token → Option (Reading Node)
  | 0, _, _ => none
  | fuel + 1, c, rest =>
    if rest.head?.any isEnd then some (.empty, c, rest) else node false false fuel c rest

/-- Reads the value of a key inside brackets or braces, if it has one. -/
def flowValue (isEnd : Token → Bool) : (fuel : Nat) → Context → List Token → Option (Reading Node)
  | 0, _, _ => none
  | fuel + 1, c, .value :: rest => flowNode isEnd fuel c rest
  | _ + 1, c, rest => some (.empty, c, rest)

/-- Reads the items up to the closing bracket. A key among them makes a mapping of one entry. -/
def flowItems :
    (fuel : Nat) → (isFirst : Bool) → Context → List Token → Option (Reading (List Node))
  | 0, _, _, _ => none
  | _ + 1, _, c, .flowSequenceEnd :: rest => some ([], c, rest)
  | fuel + 1, isFirst, c, tokens => do
    let rest ← match isFirst, tokens with
      | true, rest => some rest
      | false, .comma :: rest => some rest
      | false, _ => none
    match rest with
    | .flowSequenceEnd :: rest => return ([], c, rest)
    | .key :: rest =>
      let isEnd (t : Token) : Bool := t == .comma || t == .flowSequenceEnd
      let (k, c, rest) ← flowNode (fun t => t == .value || isEnd t) fuel c rest
      let (v, c, rest) ← flowValue isEnd fuel c rest
      let (l, c, rest) ← flowItems fuel false c rest
      return (.mapping none [(k, v)] :: l, c, rest)
    | rest =>
      let (n, c, rest) ← node false false fuel c rest
      let (l, c, rest) ← flowItems fuel false c rest
      return (n :: l, c, rest)

def flowEntries :
    (fuel : Nat) → (isFirst : Bool) → Context → List Token → Option (Reading (List (Node × Node)))
  | 0, _, _, _ => none
  | _ + 1, _, c, .flowMappingEnd :: rest => some ([], c, rest)
  | fuel + 1, isFirst, c, tokens => do
    let rest ← match isFirst, tokens with
      | true, rest => some rest
      | false, .comma :: rest => some rest
      | false, _ => none
    let isEnd (t : Token) : Bool := t == .comma || t == .flowMappingEnd
    match rest with
    | .flowMappingEnd :: rest => return ([], c, rest)
    | .key :: rest =>
      let (k, c, rest) ← flowNode (fun t => t == .value || isEnd t) fuel c rest
      let (v, c, rest) ← flowValue isEnd fuel c rest
      let (l, c, rest) ← flowEntries fuel false c rest
      return ((k, v) :: l, c, rest)
    | rest =>
      let (k, c, rest) ← node false false fuel c rest
      let (l, c, rest) ← flowEntries fuel false c rest
      return ((k, .empty) :: l, c, rest)

end

/-! ## Documents -/

/-- What tag handles stand for unless a document says something else. -/
def standardHandles : List (String × String) := [("!", "!"), ("!!", "tag:yaml.org,2002:")]

/-- Reads the directives of a document. The version is said once, and is the first. -/
def directives : (hasVersion : Bool) → List (String × String) → List Token →
    Option (List (String × String) × List Token)
  | hasVersion, handles, .version major minor :: rest =>
    if hasVersion || major != 1 || (minor != 1 && minor != 2) then none
    else directives true handles rest
  | hasVersion, handles, .tagHandle h stem :: rest =>
    if (handles.lookup h).isSome then none else directives hasVersion ((h, stem) :: handles) rest
  | _, handles, rest => some (handles ++ standardHandles, rest)

/-- Passes over marks of the end of a document. -/
def skipEnds : List Token → List Token
  | .documentEnd :: rest => skipEnds rest
  | rest => rest

/-- Whether a document has no content before a token. -/
def endsDocument : Option Token → Bool
  | none | some (.version _ _) | some (.tagHandle _ _) | some .documentStart | some .documentEnd =>
    true
  | _ => false

/-- Reads a text that is one document or none. A document may end more than once, but not before it
starts. -/
def document (s : String) : Option (Option Node) := do
  match ← tokens s with
  | [] => return none
  | start =>
    let fuel := 4 * start.length + 4
    let (root, rest) ← if endsDocument start.head? then do
        let (handles, rest) ← directives false [] start
        let .documentStart :: rest := rest | none
        if endsDocument rest.head? then some (Node.empty, rest)
        else (node true false fuel ⟨handles, []⟩ rest).map fun (n, _, rest) => (n, rest)
      else (node true false fuel ⟨standardHandles, []⟩ start).map fun (n, _, rest) => (n, rest)
    if (skipEnds rest).isEmpty && root.fits 128 then return some root else none

end Gatehouse.Yaml
