import Gatehouse.Call
import Gatehouse.Failure
import Gatehouse.Secret.Verifier
/-!
The stages of handling a request. A stage makes calls and either yields its value or refuses the
request; the first refusal stops everything that would follow.
-/

namespace Gatehouse

open Store

/-- Why a stage refuses a request: the failure that the caller is told of and, for the log alone,
why a stored hash could not be compared with the secret. -/
structure Refusal where
  failure : Failure
  unusable : Option Secret.Unusable := none
deriving DecidableEq

/-- A computation that makes calls and may refuse the request. -/
abbrev Stage (α : Type) := ExceptT Refusal Exchange α

namespace Stage

variable {α : Type}

def refuse (f : Failure) : Stage α := throw ⟨f, none⟩

def ofExcept : Except Failure α → Stage α
  | .ok a => pure a
  | .error f => refuse f

/-- Asks the identity provider; `failure` says what a fault of its means for the caller. -/
def ofProvider (c : ProviderCall) (failure : ProviderFault → Failure) : Stage c.Value :=
  ExceptT.mk <| .ask (.provider c) fun (answer : c.Answer) =>
    .done (answer.mapError fun fault => ⟨failure fault, none⟩)

/-- Asks storage. Every fault of storage is a failure inside the server. -/
def ofStore (c : StoreCall) : Stage c.Value :=
  ExceptT.mk <| .ask (.store c) fun (answer : c.Answer) =>
    .done (answer.mapError fun fault => ⟨.internal fault.message, none⟩)

end Stage

/-- The result of a stage that runs only when a header asks for it. -/
inductive StageOutcome (α : Type)
  /-- The header is absent. -/
  | skipped
  /-- The header was found valid, and this is what it stands for. -/
  | attached (value : α)
  /-- The header was rejected. -/
  | failed (failure : Failure)
deriving DecidableEq

/-- The value of an outcome, if there is one, or its failure. -/
def StageOutcome.toExcept {α : Type} : StageOutcome α → Except Failure (Option α)
  | .skipped => .ok none
  | .attached a => .ok (some a)
  | .failed f => .error f

end Gatehouse
