/-!
What can be read of a text that is meant to be JSON. A draft is the tree of the text up to the
first place where it stops being JSON, with the flaw left standing there. A decoder walks the draft
from left to right, and so meets a flaw and a value of the wrong shape in the order in which they
stand in the text.
-/

namespace Gatehouse.Json

/-- Why a text is not JSON: it is wrong at some place, or it ends too early. -/
inductive Flaw
  | malformed
  | truncated
deriving DecidableEq, Repr

/-- A number literal: the digits as one number, and the power of ten to scale them by. A literal
with neither point nor exponent is integral. -/
structure Numeral where
  negative : Bool
  digits : Nat
  scale : Int
  integral : Bool
deriving DecidableEq, Repr

/-- The least number that is no finite number of double precision. -/
def Numeral.limit : Nat := Nat.pow 2 1024 - Nat.pow 2 970

/-- Whether the number is too large for double precision. -/
def Numeral.isHuge (n : Numeral) : Bool :=
  if n.digits = 0 then false
  else match n.scale with
    | .ofNat k => k > 308 || n.digits * Nat.pow 10 k ≥ limit
    | .negSucc k =>
      n.digits ≥ limit && k < n.digits.log2 && n.digits ≥ limit * Nat.pow 10 (k + 1)

/-- How the member list of an object ends: with its brace, with a flaw, or with something else than
a text where a key has to stand. The flag says whether a comma has been read last. -/
inductive ObjectEnd (δ : Type)
  | closed
  | flawed (afterComma : Bool) (flaw : Flaw)
  | strayKey (afterComma : Bool) (key : δ)

/-- The readable part of a JSON text. Where a value has to stand there may be nothing at all, or
something that has a flaw. A text literal carries what it says, if it says anything, and the flaw
that stops it before its closing quote: an unpaired surrogate makes it unreadable but does
not stop it. -/
inductive Draft
  | null
  | bool (b : Bool)
  | number (n : Numeral)
  | text (content : Except Flaw String) (ending : Option Flaw)
  | array (items : List Draft) (ending : Option Flaw)
  | object (members : List (Except Flaw String × Draft)) (ending : ObjectEnd Draft)
  | missing
  | broken (flaw : Flaw)

end Gatehouse.Json
