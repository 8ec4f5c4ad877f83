import Gatehouse.Json.Reader
/-!
Decoders: from a draft to a value of the domain. A decoder looks at a draft from left to right and
stops at the first thing that it cannot accept, be it a flaw of the text or a value of the wrong
shape.
-/

namespace Gatehouse.Json

/-- Why a text could not be read as a value: it is not JSON, it ends too early, or it holds
something else than the value asks for. -/
inductive ReadFault
  | malformed
  | truncated
  | mismatch
deriving DecidableEq, Repr

def Flaw.fault : Flaw → ReadFault
  | .malformed => .malformed
  | .truncated => .truncated

abbrev Decoder (α : Type) := Draft → Except ReadFault α

/-- What is wrong with a draft that stands where a value of another type is wanted. A text or a
number has to be readable before its type is complained about. -/
def Draft.mismatch : Draft → ReadFault
  | .missing => .truncated
  | .broken f => f.fault
  | .number n => if n.isHuge then .malformed else .mismatch
  | .text (.error f) _ => f.fault
  | _ => .mismatch

/-! ## Values that nothing is asked of -/

/-- The end of an array or object, or the flaw that stands there. -/
def closing : Option Flaw → Except ReadFault Unit
  | none => .ok ()
  | some f => .error f.fault

/-- The end of the member list of an object that is read to its end. -/
def ObjectEnd.closing {δ : Type} : ObjectEnd δ → Except ReadFault Unit
  | .closed => .ok ()
  | .flawed _ f => .error f.fault
  | .strayKey _ _ => .error .malformed

mutual

/-- Passes over a value of which only the form matters. Its texts need not be readable and its
nesting is not limited. -/
def Draft.skip : Draft → Except ReadFault Unit
  | .missing => .error .truncated
  | .broken f => .error f.fault
  | .text _ ending => closing ending
  | .array items ending => do
    skipItems items
    closing ending
  | .object members ending => do
    skipMembers members
    ending.closing
  | _ => .ok ()

/-- Passes over items. -/
def skipItems : List Draft → Except ReadFault Unit
  | [] => .ok ()
  | d :: ds => do
    d.skip
    skipItems ds

/-- Passes over members. -/
def skipMembers : List (Except Flaw String × Draft) → Except ReadFault Unit
  | [] => .ok ()
  | (_, d) :: ms => do
    d.skip
    skipMembers ms

end

mutual

/-- Reads a value of any type in full: its texts have to be readable, its numbers in range, and it
may be nested `depth` deep. -/
def Draft.keep (depth : Nat) : Draft → Except ReadFault Unit
  | .missing => .error .truncated
  | .broken f => .error f.fault
  | .text (.error f) _ => .error f.fault
  | .number n => if n.isHuge then .error .malformed else .ok ()
  | .array items ending => match depth with
    | 0 => .error .malformed
    | depth + 1 => do
      keepItems depth items
      closing ending
  | .object members ending => match depth with
    | 0 => .error .malformed
    | depth + 1 => do
      keepMembers depth members
      ending.closing
  | _ => .ok ()

/-- Reads items in full. -/
def keepItems (depth : Nat) : List Draft → Except ReadFault Unit
  | [] => .ok ()
  | d :: ds => do
    d.keep depth
    keepItems depth ds

/-- Reads members in full. -/
def keepMembers (depth : Nat) : List (Except Flaw String × Draft) → Except ReadFault Unit
  | [] => .ok ()
  | (.error f, _) :: _ => .error f.fault
  | (.ok _, d) :: ms => do
    d.keep depth
    keepMembers depth ms

end

/-! ## Values of one type -/

def text : Decoder String
  | .text (.ok s) _ => .ok s
  | d => .error d.mismatch

def natBelow (bound : Nat) : Decoder Nat
  | .number n =>
    if n.integral && !n.negative && n.digits < bound then .ok n.digits
    else .error (Draft.number n).mismatch
  | d => .error d.mismatch

/-- Reads a value that may be null. -/
def optional {α : Type} (dec : Decoder α) : Decoder (Option α)
  | .null => .ok none
  | d => (dec d).map some

/-- Reads a text that has to say something particular. -/
def textWith {α : Type} (parse : String → Option α) : Decoder α := fun d => do
  match parse (← text d) with
  | some a => .ok a
  | none => .error .mismatch

def items {α : Type} (dec : Decoder α) : List Draft → Except ReadFault (List α)
  | [] => .ok []
  | d :: ds => do
    let a ← dec d
    return a :: (← items dec ds)

def list {α : Type} (dec : Decoder α) : Decoder (List α)
  | .array ds ending => do
    let l ← items dec ds
    closing ending
    return l
  | d => .error d.mismatch

/-- Reads one of several names: the name as a text, or as the one key of an object whose value is
null. Whatever starts like something else is no name, even if it ends too early. -/
def oneOf {α : Type} (named : String → Option α) : Decoder α
  | .text (.ok s) _ => match named s with
    | some a => .ok a
    | none => .error .mismatch
  | .text (.error f) _ => .error f.fault
  | .object [] (.strayKey _ key) => .error key.mismatch
  | .object [] (.flawed _ f) => .error f.fault
  | .object ((.error f, _) :: _) _ => .error f.fault
  | .object ((.ok k, d) :: more) ending => do
    let some a := named k | .error .mismatch
    match d with
    | .null => pure ()
    | d => .error d.mismatch
    match more, ending with
    | [], .closed => .ok a
    | [], .flawed false f => .error f.fault
    | _, _ => .error .malformed
  | .missing => .error .truncated
  | _ => .error .malformed

/-- Reads the members of an object as entries of a map, in order. -/
def entries {κ α : Type} (key : String → Option κ) (dec : Decoder α) :
    List (Except Flaw String × Draft) → Except ReadFault (List (κ × α))
  | [] => .ok []
  | (.error f, _) :: _ => .error f.fault
  | (.ok k, d) :: ms => do
    let some k := key k | .error .mismatch
    let a ← dec d
    return (k, a) :: (← entries key dec ms)

def mapEntries {κ α : Type} (key : String → Option κ) (dec : Decoder α) : Decoder (List (κ × α))
  | .object members ending => do
    let l ← entries key dec members
    ending.closing
    return l
  | d => .error d.mismatch

/-! ## Records -/

/-- What happens when a record lacks a field: it is refused, the field is null, or the field takes
a value of its own. -/
inductive Presence
  | required
  | optional
  | defaulted
deriving DecidableEq

/-- A field of a record: its name, whether it may be missing, and the values it accepts. -/
structure Field where
  name : String
  presence : Presence
  check : Draft → Except ReadFault Unit

def Field.required {α : Type} (name : String) (dec : Decoder α) : Field :=
  ⟨name, .required, fun d => (dec d).map fun _ => ()⟩

/-- A field that may be null or missing. -/
def Field.optional {α : Type} (name : String) (dec : Decoder α) : Field :=
  ⟨name, .optional, fun d => (Json.optional dec d).map fun _ => ()⟩

/-- A field that may be missing. -/
def Field.defaulted {α : Type} (name : String) (dec : Decoder α) : Field :=
  ⟨name, .defaulted, fun d => (dec d).map fun _ => ()⟩

/-- The fields of a record that are there, with their drafts. -/
abbrev Present := List (String × Draft)

/-- Reads the members of an object as fields. A field may be given once; a member that is no field
is passed over. -/
def fieldsOfMembers (fields : List Field) :
    Present → List (Except Flaw String × Draft) → Except ReadFault Present
  | present, [] => .ok present
  | _, (.error f, _) :: _ => .error f.fault
  | present, (.ok k, d) :: ms =>
    match fields.find? (·.name == k) with
    | none => do
      d.skip
      fieldsOfMembers fields present ms
    | some field => do
      if present.any (·.1 == k) then .error .mismatch
      field.check d
      fieldsOfMembers fields ((k, d) :: present) ms

/-- Reads the items of an array as the fields in order. Fields at the end may be missing when they
have a value of their own; when `exact` is set, nothing may follow the last field. -/
def fieldsOfItems (exact : Bool) :
    List Field → List Draft → Option Flaw → Except ReadFault Present
  | [], [], ending => (closing ending).map fun _ => []
  | [], _ :: _, _ => if exact then .error .malformed else .ok []
  | _ :: _, [], some f => .error f.fault
  | field :: fields, [], none =>
    if field.presence = .defaulted then fieldsOfItems exact fields [] none else .error .mismatch
  | field :: fields, d :: ds, ending => do
    field.check d
    return (field.name, d) :: (← fieldsOfItems exact fields ds ending)

/-- Whether every field that has to be there is. -/
def complete (fields : List Field) (present : Present) : Bool :=
  fields.all fun f => f.presence != .required || present.any (·.1 == f.name)

/-- Reads the fields of a record, which is written as an object or as an array. -/
def record (fields : List Field) (exact : Bool) : Decoder Present
  | .object members ending => do
    let present ← fieldsOfMembers fields [] members
    ending.closing
    if complete fields present then .ok present else .error .mismatch
  | .array ds ending => fieldsOfItems exact fields ds ending
  | d => .error d.mismatch

/-- The value of a field that has to be there. -/
def Present.required {α : Type} (p : Present) (name : String) (dec : Decoder α) :
    Except ReadFault α :=
  match p.lookup name with
  | some d => dec d
  | none => .error .mismatch

/-- The value of a field that may be null or missing. -/
def Present.optional {α : Type} (p : Present) (name : String) (dec : Decoder α) :
    Except ReadFault (Option α) :=
  match p.lookup name with
  | some d => Json.optional dec d
  | none => .ok none

/-- The value of a field that takes `default` when it is missing. -/
def Present.withDefault {α : Type} (p : Present) (name : String) (dec : Decoder α) (default : α) :
    Except ReadFault α :=
  match p.lookup name with
  | some d => dec d
  | none => .ok default

/-! ## Whole texts -/

/-- Reads a text that holds one value and nothing after it. -/
def decodeChars {α : Type} (dec : Decoder α) (cs : List Char) : Except ReadFault α := do
  let (d, rest) := read cs
  let a ← dec d
  if (skipSpaces rest).isEmpty then return a else .error .malformed

/-- Reads a text that holds one value and nothing after it. -/
def decode {α : Type} (dec : Decoder α) (s : String) : Except ReadFault α :=
  decodeChars dec s.toList

end Gatehouse.Json
