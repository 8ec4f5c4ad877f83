import Gatehouse.Secret.Verifier
/-!
The slots that verifications share. A caller waits for a slot and is handed one. Once its
computation has begun the slot is taken until that ends, whether or not anybody still waits for the
result; a caller that gives up before gives the slot back.
-/

namespace Gatehouse.Secret

/-- What happens to verifications: a caller asks for one, is handed a slot, has its verification
begin, or gives up, or a running verification ends. -/
inductive SlotEvent
  | request (caller : Nat) (stored : Option String)
  | grant (caller : Nat)
  | start (caller : Nat)
  | abandon (caller : Nat)
  | finish (caller : Nat)
deriving DecidableEq

/-- The memory that a verification takes in kibibytes: what the stored hash asks for, the cost of
the verifier when there is none, and nothing when the stored hash is unusable. -/
def Verifier.demand (v : Verifier) : Option String → Nat
  | none => v.cost.memory
  | some stored => match recipe stored with
    | .ok r => r.cost.memory
    | .error _ => 0

/-- The verifications that share the slots of a verifier. -/
structure Slots where
  verifier : Verifier
  free : Nat
  /-- The callers that wait for a slot, with the hash to verify against. -/
  waiting : List (Nat × Option String)
  /-- The callers that have a slot and whose verification has not begun. -/
  granted : List (Nat × Option String)
  /-- The callers whose verification runs, with the memory it takes. -/
  running : List (Nat × Nat)
deriving DecidableEq

namespace Slots

/-- All slots are free and nobody waits. -/
def idle (v : Verifier) : Slots := ⟨v, v.slots, [], [], []⟩

/-- The state after an event; an event that cannot happen changes nothing. -/
def step (s : Slots) : SlotEvent → Slots
  | .request caller stored => { s with waiting := s.waiting ++ [(caller, stored)] }
  | .grant caller =>
    match s.waiting.lookup caller, s.free with
    | some stored, free + 1 =>
      { s with
        free := free
        waiting := s.waiting.eraseP (caller == ·.1)
        granted := s.granted ++ [(caller, stored)] }
    | _, _ => s
  | .start caller =>
    match s.granted.lookup caller with
    | some stored =>
      { s with
        granted := s.granted.eraseP (caller == ·.1)
        running := s.running ++ [(caller, s.verifier.demand stored)] }
    | none => s
  | .abandon caller =>
    match s.granted.lookup caller with
    | some _ => { s with free := s.free + 1, granted := s.granted.eraseP (caller == ·.1) }
    | none => { s with waiting := s.waiting.eraseP (caller == ·.1) }
  | .finish caller =>
    match s.running.lookup caller with
    | some _ => { s with free := s.free + 1, running := s.running.eraseP (caller == ·.1) }
    | none => s

def run (s : Slots) (events : List SlotEvent) : Slots := events.foldl step s

def memoryInUse (s : Slots) : Nat := s.running.foldr (fun v n => v.2 + n) 0

end Slots

end Gatehouse.Secret
