import Gatehouse.Provider.Table
import Gatehouse.Store.Memory
import Gatehouse.Surface
import Gatehouse.Timeline
/-!
A server at a point in time: its settings, a store in memory, an identity provider that answers from
a table, and the runs that go on although the requests they belong to have been answered already.
The clock moves only while something is waited for.
-/

namespace Gatehouse

open Http Store

/-- A server at a point in time. Times are in milliseconds. -/
structure World where
  policy : Policy
  tokens : Provider.Table
  memory : Memory
  now : Nat
  /-- The bound of every call to the identity provider. -/
  providerLimit : Nat
  /-- The bound of every call to storage. -/
  storeLimit : Nat
  /-- How long handling one request may take. -/
  requestLimit : Nat
  /-- The paths that the guard of the service lets through. -/
  publicPaths : List String
  /-- The runs that nobody waits for any more. -/
  background : List (Run Verdict)

/-- What an observer of the log sees. -/
structure Log where
  audit : List AuditEvent := []
  unusable : List Secret.Unusable := []

namespace Log

def add (l : Log) (v : Verdict) : Log := ⟨l.audit ++ v.audit, l.unusable ++ v.unusable.toList⟩

end Log

namespace World

/-- How calls are dealt with in a world. -/
def surroundings (w : World) : Surroundings where
  delay
    | .provider c => w.tokens.delay c
    | .store _ => w.memory.latency
  limit
    | .provider _ => w.providerLimit
    | .store _ => w.storeLimit
  answer
    | .provider c => if w.tokens.breaks c then none else some (w.tokens.answer c)
    | .store c => some (w.memory.answer c)

/-- Takes note of calls that were begun. -/
def countCalls (w : World) (calls : List Call) : World :=
  { w with
    memory := calls.foldl
      (fun m c => match c with
        | .store c => m.count c
        | .provider _ => m)
      w.memory }

/-- The runs that have ended, in the order in which they did. -/
def inOrder (runs : List (Run Verdict)) : List (Run Verdict) :=
  runs.mergeSort fun a b => a.endTime?.getD 0 ≤ b.endTime?.getD 0

/-- Follows the runs in the background through a part of time, and logs what those that come to
their end are found to have done. -/
def settle (w : World) (within : Nat → Bool) (log : Log) : World × Log :=
  let followed := w.background.map (Run.follow w.surroundings within)
  let runs := followed.map (·.1)
  let w := { w with background := runs.filter (·.endTime?.isNone) }
  (w.countCalls (followed.flatMap (·.2)),
    ((inOrder (runs.filter (·.endTime?.isSome))).filterMap Run.result?).foldl Log.add log)

/-! ## Waiting for runs -/

/-- Holds an exchange that the observer waits for itself. Other runs go on only while time passes,
up to but not at the moment of its end. -/
def hold {α : Type} (w : World) (exchange : Exchange α) : World × Option α × Log :=
  let (run, calls) := Run.proceed w.surroundings (fun _ => true) w.now exchange
  let w := w.countCalls calls
  let time := run.endTime?.getD w.now
  let (w, log) := w.settle (· < time) {}
  ({ w with now := time }, run.result?, log)

/-- Logs a verdict after everything else that happened. -/
def Log.conclude (log : Log) (v : Option Verdict) : Log := v.elim log log.add

/-- Handles a request as part of what the observer does. -/
def holdDirectly (w : World) (request : Request) : World × RunEnd × Log :=
  let (w, verdict, log) := w.hold (Admission.run w.policy request)
  (w, verdict.elim .broken (.result ·.result), Log.conclude log verdict)

/-- Has a run of its own handle a request, and waits for its end. -/
def holdRun (w : World) (request : Request) : World × RunEnd × Log :=
  let (run, calls) :=
    Run.proceed w.surroundings (fun _ => true) w.now (Admission.run w.policy request)
  let w := w.countCalls calls
  let time := run.endTime?.getD w.now
  let (w, log) := w.settle (· ≤ time) {}
  ({ w with now := time }, run.result?.elim .broken (.result ·.result),
    Log.conclude log run.result?)

/-- Has a run of its own handle a request, and waits for its end as long as requests may take. The
run goes on when nobody waits for it any more. -/
def holdRunWithin (w : World) (request : Request) : World × RunEnd × Log :=
  let deadline := w.now + w.requestLimit
  let (run, calls) := Run.follow w.surroundings (· < deadline)
    (.ready w.now (Admission.run w.policy request))
  let w := w.countCalls calls
  match run.endTime? with
  | some time =>
    let (w, log) := w.settle (· ≤ time) {}
    ({ w with now := time }, run.result?.elim .broken (.result ·.result),
      Log.conclude log run.result?)
  | none =>
    let (w, log) := w.settle (· < deadline) {}
    ({ w with now := deadline, background := w.background ++ [run] }, .cutOff, log)

def serve (w : World) (r : WebRequest) : World × Response × Log :=
  match Surface.handle w.publicPaths r with
  | .immediate response => (w, response, {})
  | .guarded request respond =>
    let (w, e, log) := w.holdRunWithin request
    (w, respond e, log)

/-- Handles a request to an application behind a guard, which takes all the time that it needs. -/
def serveGuarded (w : World) (g : Guard) (r : WebRequest) : World × Response × Log :=
  match Surface.handleGuarded g r with
  | .immediate response => (w, response, {})
  | .guarded request respond =>
    let (w, e, log) := w.holdRun request
    (w, respond e, log)

/-- Asks the store directly. There is no bound on the time that it takes. -/
def askStore (w : World) (c : StoreCall) : World × c.Answer × Log :=
  let w := w.countCalls [.store c]
  let time := w.now + w.memory.latency
  let (w, log) := w.settle (· < time) {}
  ({ w with now := time }, w.memory.answer c, log)

end World

end Gatehouse
