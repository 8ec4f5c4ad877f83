import Gatehouse.Text.Blank
import Gatehouse.Text.Decimal
/-!
Lengths of time and their text. A duration is written as a number with a unit: `ms`, `s`, `m` or
`h`; a number alone counts seconds. It is written back in seconds when it has no millisecond part
and in milliseconds otherwise, so that parts finer than a millisecond are dropped.
-/

namespace Gatehouse

/-- A length of time in nanoseconds. -/
structure Duration where
  nanos : Nat
deriving DecidableEq, Repr

namespace Duration

open Text

def ofSeconds (n : Nat) : Duration := ⟨n * 1000000000⟩

def ofMillis (n : Nat) : Duration := ⟨n * 1000000⟩

def seconds (d : Duration) : Nat := d.nanos / 1000000000

/-- What is left of a duration after its whole seconds. -/
def subsecNanos (d : Duration) : Nat := d.nanos % 1000000000

def millis (d : Duration) : Nat := d.nanos / 1000000

/-- The units a duration may be written in. -/
inductive Measure
  | milliseconds
  | seconds
  | minutes
  | hours
deriving DecidableEq, Repr

/-- The numbers of units are below this bound. -/
def countBound : Nat := UInt64.size

/-- So many units of a measure. The seconds of minutes and hours are counted in 64 bits and start
over where these end. -/
def Measure.times : Measure → Nat → Duration
  | .milliseconds, n => ofMillis n
  | .seconds, n => ofSeconds n
  | .minutes, n => ofSeconds (n * 60 % countBound)
  | .hours, n => ofSeconds (n * 3600 % countBound)

/-- Takes the unit off the end of a text. The longer unit is tried first, since `ms` ends in the
letter of another one. -/
def splitMeasure (cs : List Char) : List Char × Measure :=
  match beforeEnd? ['m', 's'] cs with
  | some number => (number, .milliseconds)
  | none => match beforeEnd? ['s'] cs with
    | some number => (number, .seconds)
    | none => match beforeEnd? ['m'] cs with
      | some number => (number, .minutes)
      | none => match beforeEnd? ['h'] cs with
        | some number => (number, .hours)
        | none => (cs, .seconds)

/-- Reads a duration; blank characters around it do not matter. -/
def parse (s : String) : Except DecimalFault Duration :=
  let (number, measure) := splitMeasure (trim s).toList
  (readUnsigned countBound number).map measure.times

def toText (d : Duration) : String :=
  if d.millis % 1000 = 0 then toString d.seconds ++ "s" else toString d.millis ++ "ms"

end Duration

end Gatehouse
