import Gatehouse.Settings.Tree
import Gatehouse.Text.Scientific
import Gatehouse.Yaml.Node
/-!
What the nodes of a document mean as settings. A plain scalar may be null, a truth value or a
number, by the core rules of the language; every other scalar is a text. Digits with a needless zero
in front are a text, too.
-/

namespace Gatehouse.Yaml

open Settings Text

def numberInBase? (base : Nat) (cs : List Char) : Option Nat :=
  if cs.isEmpty then none
  else cs.foldlM (fun n c => do
    let d ← Encoding.hexValue? c
    if d < base then some (base * n + d) else none) 0

/-- The bases with a mark of their own. -/
def markedBases : List (List Char × Nat) := [(['0', 'x'], 16), (['0', 'o'], 8), (['0', 'b'], 2)]

def markedNumber? (cs : List Char) : Option Nat :=
  markedBases.findSome? fun (mark, base) => (afterStart? mark cs).bind (numberInBase? base)

/-- Whether a text has only digits, of which the first is a needless zero. -/
def hasNeedlessZero (cs : List Char) : Bool :=
  match (Scientific.splitSign cs).2 with
  | '0' :: digits => !digits.isEmpty && digits.all isDigit
  | _ => false

/-- The least number that no unsigned integer of 128 bits is. -/
def integerBound : Nat := 0x100000000000000000000000000000000

/-- The integer that a plain scalar denotes. Its sign may stand before the mark of a base. -/
def integer? (cs : List Char) : Option Int :=
  let (negative, digits) := Scientific.splitSign cs
  let number := match markedNumber? digits with
    | some n => some n
    | none => if hasNeedlessZero cs then none else natOfDigits? digits
  match number with
  | some n =>
    if negative then (if 2 * n ≤ integerBound then some (-(n : Int)) else none)
    else if n < integerBound then some (n : Int) else none
  | none => none

/-- The number with a fraction or an exponent that a scalar denotes, if double precision holds it.
-/
def isFraction (cs : List Char) : Bool :=
  let unsigned := String.ofList (Scientific.splitSign cs).2
  if [".inf", ".Inf", ".INF"].contains unsigned then true
  else if [".nan", ".NaN", ".NAN"].contains (String.ofList cs) then true
  else match Scientific.parse? cs with
    | some s => !Json.Numeral.isHuge ⟨s.negative, s.digits, s.scale, false⟩
    | none => false

/-- Whether a scalar denotes nothing. -/
def isNull (s : String) : Bool := ["null", "Null", "NULL", "~"].contains s

/-- The truth value that a scalar denotes. -/
def truth? (s : String) : Option Bool :=
  if ["true", "True", "TRUE"].contains s then some true
  else if ["false", "False", "FALSE"].contains s then some false
  else none

/-- What a plain scalar without a tag means. -/
def plainMeaning (s : String) : Tree :=
  if s.isEmpty || isNull s then .null
  else match truth? s, integer? s.toList with
    | some b, _ => .bool b
    | none, some n => .integer n
    | none, none =>
      if !hasNeedlessZero s.toList && isFraction s.toList then .fraction else .text s

/-- The start of the tags that the language itself gives a meaning to. -/
def standardStem : String := "tag:yaml.org,2002:"

/-- What a scalar with a tag means, if it may have that tag. -/
def taggedMeaning (tag s : String) (isPlain : Bool) : Option Tree :=
  if tag == standardStem ++ "null" then (if isNull s then some .null else none)
  else if tag == standardStem ++ "bool" then (truth? s).map .bool
  else if tag == standardStem ++ "int" then (integer? s.toList).map .integer
  else if tag == standardStem ++ "float" then (if isFraction s.toList then some .fraction else none)
  else if tag == "!" && isPlain then some (plainMeaning s)
  else some (.text s)

/-- Whether a tag has a meaning that settings know nothing about. -/
def isForeign (tag : Option String) : Bool :=
  tag.any fun t => t.startsWith "!" && t != "!"

def Node.name? : Node → Option String
  | .scalar _ s _ => some s
  | _ => none

mutual

def Node.meaning? : Node → Option Tree
  | .scalar tag s isPlain =>
    if isForeign tag then none
    else match tag with
      | some tag => taggedMeaning tag s isPlain
      | none => some (if isPlain then plainMeaning s else .text s)
  | .sequence tag items =>
    if isForeign tag then none else (itemMeanings? items).map .list
  | .mapping tag entries =>
    if isForeign tag then none else (entryMeanings? [] entries).map .map

def itemMeanings? : List Node → Option (List Tree)
  | [] => some []
  | n :: rest => do
    let t ← n.meaning?
    return t :: (← itemMeanings? rest)

/-- What entries mean, after others. Of two entries with one name the later one counts. -/
def entryMeanings? (before : List (String × Tree)) :
    List (Node × Node) → Option (List (String × Tree))
  | [] => some before
  | (k, v) :: rest => do
    let name ← k.name?
    let t ← v.meaning?
    entryMeanings? (Tree.set before name t) rest

end

/-- The settings in a text: a map, or nothing at all. -/
def settings? (s : String) : Option Tree := do
  match ← document s with
  | none | some (.scalar _ "" true) => return .map []
  | some (.mapping _ entries) => (entryMeanings? [] entries).map .map
  | _ => none

end Gatehouse.Yaml
