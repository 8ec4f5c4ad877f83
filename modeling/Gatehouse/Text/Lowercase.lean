import Gatehouse.Text.CaseTable
/-!
Lower-casing of any text. Every character is mapped on its own, except the capital sigma, which
becomes the final form at the end of a word: when a cased letter stands before it and none after
it, looking past the characters that carry no case of their own.
-/

namespace Gatehouse.Text

/-- Whether a number lies in one of the ranges. -/
def inRanges (ranges : List (Nat × Nat)) (n : Nat) : Bool :=
  ranges.any fun r => r.1 ≤ n && n ≤ r.2

/-- Whether a code point is one that the run maps. -/
def CaseRun.covers (r : CaseRun) (n : Nat) : Bool :=
  r.first ≤ n && n ≤ r.last && (n - r.first) % r.step == 0

/-- The lower-case form of a code point that has one, and the code point itself otherwise. -/
def lowerPoint (n : Nat) : Nat :=
  match lowerRuns.find? (·.covers n) with
  | some r => (Int.ofNat n + r.shift).toNat
  | none => n

/-- The lower-case form of a character, a sigma apart. The capital I with a dot is the only one
whose form is two characters. -/
def lowerChar (c : Char) : List Char :=
  if c.toNat = 0x130 then ['i', '\u0307'] else [Char.ofNat (lowerPoint c.toNat)]

/-- Whether a character carries case for the rule of the final sigma. -/
def isCased (c : Char) : Bool := inRanges casedRanges c.toNat

/-- Whether the rule of the final sigma looks past a character. -/
def isCaseIgnorable (c : Char) : Bool := inRanges caseIgnorableRanges c.toNat

def startsCased (cs : List Char) : Bool :=
  match cs.dropWhile isCaseIgnorable with
  | c :: _ => isCased c
  | [] => false

/-- Lower-cases a text whose earlier characters, last one first, are `before`. -/
def lowerFrom : (before rest : List Char) → List Char
  | _, [] => []
  | before, c :: rest =>
    if c = 'Σ' then
      (if startsCased before && !startsCased rest then 'ς' else 'σ') :: lowerFrom (c :: before) rest
    else lowerChar c ++ lowerFrom (c :: before) rest

/-- The lower-case form of a text. -/
def lowercase (s : String) : String := String.ofList (lowerFrom [] s.toList)

end Gatehouse.Text
