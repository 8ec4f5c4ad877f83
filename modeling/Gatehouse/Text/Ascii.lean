/-!
Rules that look at ASCII letters and digits only.
-/

namespace Gatehouse.Text

def isDigit (c : Char) : Bool := '0' ≤ c && c ≤ '9'

/-- Whether a character is an ASCII letter. -/
def isLetter (c : Char) : Bool := ('a' ≤ c && c ≤ 'z') || ('A' ≤ c && c ≤ 'Z')

/-- The lower-case form of an ASCII letter; every other character stands for itself. -/
def lowerAscii (c : Char) : Char :=
  if 'A' ≤ c && c ≤ 'Z' then Char.ofNat (c.toNat + 32) else c

/-- Whether two texts are equal up to the case of ASCII letters. -/
def sameIgnoringCase (a b : String) : Bool :=
  a.toList.map lowerAscii == b.toList.map lowerAscii

def lowerAsciiText (s : String) : String := String.ofList (s.toList.map lowerAscii)

/-- What follows `head` in `s`, when `s` starts with it. -/
def afterStart? {α : Type} [BEq α] : (head s : List α) → Option (List α)
  | [], s => some s
  | _ :: _, [] => none
  | h :: hs, c :: cs => if h == c then afterStart? hs cs else none

/-- What precedes `tail` in `s`, when `s` ends with it. -/
def beforeEnd? {α : Type} [BEq α] (tail s : List α) : Option (List α) :=
  (afterStart? tail.reverse s.reverse).map List.reverse

/-- The parts of a list between the elements that satisfy `p`: one more than there are such
elements. -/
def splitOn {α : Type} (p : α → Bool) : List α → List (List α)
  | [] => [[]]
  | c :: cs =>
    if p c then [] :: splitOn p cs
    else match splitOn p cs with
      | [] => [[c]]
      | part :: parts => (c :: part) :: parts

end Gatehouse.Text
