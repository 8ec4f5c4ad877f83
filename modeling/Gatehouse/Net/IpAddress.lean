import Gatehouse.Encoding.Hex
import Gatehouse.Text.Ascii
import Gatehouse.Text.Decimal
/-!
Numeric addresses of machines. The older kind is four numbers with dots between them; the newer kind
is eight groups of hexadecimal digits with colons between them, where one run of zero groups may be
left out and the last two groups may be written like an address of the older kind.
-/

namespace Gatehouse.Net

open Text

/-- A numeric address. -/
inductive IpAddress
  | v4 (octets : List Nat)
  | v6 (groups : List Nat)
deriving DecidableEq, Repr

namespace IpAddress

/-- One of the four numbers: at most 255, in at most three digits, without a zero in front. -/
def octet? (cs : List Char) : Option Nat :=
  match natOfDigits? cs with
  | some n =>
    if cs.length ≤ 3 && n ≤ 255 && (cs.length == 1 || cs.head? != some '0') then some n else none
  | none => none

/-- The numbers of an address of the older kind. -/
def octets? (cs : List Char) : Option (List Nat) :=
  let fields := splitOn (· == '.') cs
  if fields.length = 4 then fields.mapM octet? else none

/-- One group of an address of the newer kind: one to four digits. -/
def group? (cs : List Char) : Option Nat :=
  if cs.isEmpty || 4 < cs.length then none else Encoding.hexNumber? cs

/-- The two groups that stand for the numbers of an address of the older kind. -/
def groupsOfOctets : List Nat → List Nat
  | a :: b :: rest => (256 * a + b) :: groupsOfOctets rest
  | _ => []

/-- The groups in some fields, of which the last may be an address of the older kind. -/
def groupsOfFields (mayEndInOctets : Bool) : List (List Char) → Option (List Nat)
  | [] => some []
  | [field] => match group? field with
    | some g => some [g]
    | none => if mayEndInOctets then (octets? field).map groupsOfOctets else none
  | field :: rest => do
    let g ← group? field
    let gs ← groupsOfFields mayEndInOctets rest
    return g :: gs

/-- The groups in a part of an address, which may be empty. -/
def groups? (mayEndInOctets : Bool) (cs : List Char) : Option (List Nat) :=
  if cs.isEmpty then some [] else groupsOfFields mayEndInOctets (splitOn (· == ':') cs)

/-- The parts before and after the first double colon. -/
def splitAtGap : List Char → Option (List Char × List Char)
  | ':' :: ':' :: rest => some ([], rest)
  | c :: rest => (splitAtGap rest).map fun (before, after) => (c :: before, after)
  | [] => none

/-- The groups of an address of the newer kind. -/
def eightGroups? (cs : List Char) : Option (List Nat) := do
  match splitAtGap cs with
  | none =>
    let gs ← groups? true cs
    if gs.length = 8 then some gs else none
  | some (before, after) =>
    let front ← groups? false before
    let back ← groups? true after
    if front.length + back.length < 8 then
      some (front ++ List.replicate (8 - front.length - back.length) 0 ++ back)
    else none

/-- Reads an address of the newer kind. -/
def parseV6? (cs : List Char) : Option IpAddress := (eightGroups? cs).map .v6

/-- Reads an address of either kind. -/
def parse? (s : String) : Option IpAddress :=
  match octets? s.toList with
  | some l => some (.v4 l)
  | none => parseV6? s.toList

end IpAddress

end Gatehouse.Net
