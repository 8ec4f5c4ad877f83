import Gatehouse.Call
/-!
Runs in time. A call takes a while and has a bound: a call that takes longer than its bound is
given up when the bound is reached, one that takes exactly as long is answered. A run is followed as
far as a given part of time goes, and can be taken up again later; what a call finds is what is
there when its time has passed, not when it was made. Times are in milliseconds.
-/

namespace Gatehouse

/-- How calls are dealt with outside. -/
structure Surroundings where
  delay : Call → Nat
  limit : Call → Nat
  /-- The answer to a call; none when the one who should answer breaks down. -/
  answer : (c : Call) → Option c.Answer

namespace Surroundings

/-- Whether a call takes longer than its bound. -/
def isLate (s : Surroundings) (c : Call) : Bool := s.limit c < s.delay c

/-- How long the caller waits for a call. -/
def wait (s : Surroundings) (c : Call) : Nat := min (s.delay c) (s.limit c)

/-- What the caller is told in the end. -/
def outcome (s : Surroundings) (c : Call) (late : Bool) : Option c.Answer :=
  if late then some c.late else s.answer c

end Surroundings

/-- A run at some point of its way. -/
inductive Run (α : Type)
  /-- It can start from this time on. -/
  | ready (time : Nat) (rest : Exchange α)
  /-- It waits for the end of a call, which is known to be late or not. -/
  | waiting (wake : Nat) (call : Call) (late : Bool) (next : call.Answer → Exchange α)
  /-- It has come to its end. -/
  | ended (time : Nat) (result : α)
  /-- It has broken down. -/
  | broken (time : Nat)

namespace Run

variable {α : Type}

/-- Follows a computation from a time on, as long as its calls end within the part of time; tells
the calls that were begun, too. -/
def proceed (s : Surroundings) (within : Nat → Bool) (now : Nat) : Exchange α → Run α × List Call
  | .done a => (.ended now a, [])
  | .ask c next =>
    let wake := now + s.wait c
    let late := s.isLate c
    if within wake then
      match s.outcome c late with
      | none => (.broken wake, [c])
      | some x =>
        let (run, calls) := proceed s within wake (next x)
        (run, c :: calls)
    else (.waiting wake c late next, [c])

/-- Follows a run as far as the part of time goes. -/
def follow (s : Surroundings) (within : Nat → Bool) : Run α → Run α × List Call
  | .ready time rest => if within time then proceed s within time rest else (.ready time rest, [])
  | .waiting wake c late next =>
    if within wake then
      match s.outcome c late with
      | none => (.broken wake, [])
      | some x => proceed s within wake (next x)
    else (.waiting wake c late next, [])
  | run => (run, [])

/-- When a run came to its end, if it did. -/
def endTime? : Run α → Option Nat
  | .ended time _ | .broken time => some time
  | _ => none

def result? : Run α → Option α
  | .ended _ a => some a
  | _ => none

end Run

end Gatehouse
