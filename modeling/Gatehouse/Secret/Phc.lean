import Gatehouse.Encoding.Base64
import Gatehouse.Text.Decimal
/-!
The text form of password hashes: fields after dollar signs, of which only the first, the name of
the algorithm, is always there. A version, parameters, a salt and a digest may follow in this order.
-/

namespace Gatehouse.Secret

open Text Encoding

/-- A password hash in its text form, taken apart. -/
structure Phc where
  algorithm : String
  version : Option Nat
  parameters : List (String × String)
  salt : Option String
  digest : Option (List UInt8)
deriving DecidableEq

namespace Phc

/-- Numbers are below this bound. -/
def numberBound : Nat := UInt32.size

/-- Whether a character may occur in the name of an algorithm or parameter. -/
def isNameChar (c : Char) : Bool := ('a' ≤ c && c ≤ 'z') || isDigit c || c == '-'

/-- Whether a text may name an algorithm or a parameter. -/
def isName (cs : List Char) : Bool := 1 ≤ cs.length && cs.length ≤ 32 && cs.all isNameChar

def isValueChar (c : Char) : Bool :=
  isLetter c || isDigit c || c == '/' || c == '+' || c == '.' || c == '-'

/-- Whether a text may be a value. -/
def isValue (cs : List Char) : Bool := cs.length ≤ 64 && cs.all isValueChar

/-- Reads a number: digits without a sign or a leading zero. -/
def number? (cs : List Char) : Option Nat :=
  if cs.head? = some '0' && cs.length != 1 then none
  else (natOfDigits? cs).filter (· < numberBound)

def parameter? (cs : List Char) : Option (String × String) :=
  match splitOn (· == '=') cs with
  | [name, value] =>
    if isName name && isValue value then some (String.ofList name, String.ofList value) else none
  | _ => none

/-- Reads the parameters of a hash. -/
def parameters? (cs : List Char) : Option (List (String × String)) :=
  if cs.length ≤ 127 then (splitOn (· == ',') cs).mapM parameter? else none

/-- Reads a salt, which need not be base 64 yet. -/
def salt? (cs : List Char) : Option String :=
  if 4 ≤ cs.length && isValue cs then some (String.ofList cs) else none

def digest? (cs : List Char) : Option (List UInt8) :=
  (Base64.standard.decode? cs).filter fun bytes => 10 ≤ bytes.length && bytes.length ≤ 64

def isVersion (cs : List Char) : Bool := cs.take 2 == ['v', '='] && !cs.contains ','

/-- Takes the version off the fields, if there is one. -/
def takeVersion : List (List Char) → Option (Option Nat × List (List Char))
  | [] => some (none, [])
  | f :: fs => if isVersion f then (number? (f.drop 2)).map (some ·, fs) else some (none, f :: fs)

/-- Takes the parameters off the fields, if there are any. -/
def takeParameters : List (List Char) → Option (List (String × String) × List (List Char))
  | [] => some ([], [])
  | f :: fs => if f.contains '=' then (parameters? f).map (·, fs) else some ([], f :: fs)

/-- Reads the text form. -/
def parse? (s : String) : Option Phc :=
  match splitOn (· == '$') s.toList with
  | [] :: algorithm :: fields => do
    if !isName algorithm then none
    let (version, fields) ← takeVersion fields
    let (parameters, fields) ← takeParameters fields
    let hash : Phc := ⟨String.ofList algorithm, version, parameters, none, none⟩
    match fields with
    | [] => some hash
    | [salt] => do return { hash with salt := some (← salt? salt) }
    | [salt, digest] => do
      return { hash with salt := some (← salt? salt), digest := some (← digest? digest) }
    | _ => none
  | _ => none

def fields (h : Phc) : List String :=
  (h.version.map fun v => "v=" ++ toString v).toList ++
    (if h.parameters.isEmpty then []
      else [String.intercalate "," (h.parameters.map fun (k, v) => k ++ "=" ++ v)]) ++
    h.salt.toList ++ (h.digest.map fun d => String.ofList (Base64.standard.encode d)).toList

/-- Writes the text form. -/
def toText (h : Phc) : String := String.join ((h.algorithm :: h.fields).map ("$" ++ ·))

end Phc

end Gatehouse.Secret
