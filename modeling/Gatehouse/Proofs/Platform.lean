import Gatehouse.Proofs.Stage
import Gatehouse.Proofs.Verdict
import Gatehouse.World

/-!
# Requests on a platform

A platform is all that a request meets: the settings, an identity provider that answers anything
after any time, a store in memory, and the bounds of calls. A call whose answer takes longer than
its bound is answered as late, so that one function answers every call (`answer`) and the verdict on
a request is computed from it. Following a run in time comes to the same verdict with the same
calls (`proceed_eq`), and so does a world whose provider answers from a table (`holdDirectly_eq`).
-/

namespace Gatehouse

open Store

/-- However calls are answered, the verdict on a request is that on what its stages come to. -/
theorem Admission.answered_run (policy : Policy) (request : Request)
    (answer : (c : Call) → c.Answer) :
    (run policy request).answered answer =
      verdictOf (.ofHeaders request.headers) request.path
        (Stage.outcome answer (identify policy request (.ofHeaders request.headers))) := by
  rw [run_eq, Dialogue.answered_bind]
  rfl

/-- The result of a request is what its stages come to; why a hash could not be used is not told. -/
theorem Admission.result_answered (policy : Policy) (request : Request)
    (answer : (c : Call) → c.Answer) :
    ((run policy request).answered answer).result =
      (Stage.outcome answer (identify policy request (.ofHeaders request.headers))).mapError
        (·.failure) :=
  congrArg Verdict.result (answered_run ..)

/-- All that a request meets. Times are in milliseconds. -/
structure Platform where
  policy : Policy
  /-- What the identity provider answers, given the time. -/
  provider : (c : ProviderCall) → c.Answer
  providerDelay : ProviderCall → Nat
  providerLimit : Nat
  memory : Memory
  storeLimit : Nat

namespace Platform

variable (p : Platform)

/-- How calls are dealt with on a platform. -/
def surroundings : Surroundings where
  delay
    | .provider c => p.providerDelay c
    | .store _ => p.memory.latency
  limit
    | .provider _ => p.providerLimit
    | .store _ => p.storeLimit
  answer
    | .provider c => some (p.provider c)
    | .store c => some (p.memory.answer c)

/-- What the identity provider is found to answer in the end. -/
def providerAnswer (c : ProviderCall) : c.Answer :=
  if p.providerLimit < p.providerDelay c then .error .timedOut else p.provider c

/-- What the store is found to answer in the end. -/
def storeAnswer (c : StoreCall) : c.Answer :=
  if p.storeLimit < p.memory.latency then .error .timedOut else p.memory.answer c

/-- What a caller is told in the end. -/
def answer : (c : Call) → c.Answer := Call.answerFrom p.providerAnswer p.storeAnswer

def verdict (request : Request) : Verdict := (Admission.run p.policy request).answered p.answer

/-- What the caller of a request is given. -/
def result (request : Request) : Except Failure (Option IdentityContext) :=
  (p.verdict request).result

def calls (request : Request) : List Call := (Admission.run p.policy request).asked p.answer

/-! ## Runs in time -/

theorem outcome_eq (c : Call) :
    p.surroundings.outcome c (p.surroundings.isLate c) = some (p.answer c) := by
  unfold Surroundings.outcome Surroundings.isLate
  cases c with
  | provider c =>
    change (if decide (p.providerLimit < p.providerDelay c) = true then
      some (.error .timedOut : c.Answer) else some (p.provider c)) = some (p.providerAnswer c)
    unfold providerAnswer
    by_cases h : p.providerLimit < p.providerDelay c
    · simp [h]
    · simp [h]
  | store c =>
    change (if decide (p.storeLimit < p.memory.latency) = true then
      some (.error .timedOut : c.Answer) else some (p.memory.answer c)) = some (p.storeAnswer c)
    unfold storeAnswer
    by_cases h : p.storeLimit < p.memory.latency
    · simp [h]
    · simp [h]

/-- A run that is followed to its end gives the result computed from the answers, and makes the
calls that lead there. -/
theorem proceed_eq {α : Type} (now : Nat) (d : Exchange α) :
    ∃ time, Run.proceed p.surroundings (fun _ => true) now d =
      (.ended time (d.answered p.answer), d.asked p.answer) := by
  -- Every call takes time, so the rest of the run starts later than the whole of it.
  induction d generalizing now with
  | done a => exact ⟨now, rfl⟩
  | ask c next ih =>
    obtain ⟨time, ht⟩ := ih (p.answer c) (now + p.surroundings.wait c)
    refine ⟨time, ?_⟩
    simp only [Run.proceed, ↓reduceIte, p.outcome_eq c]
    rw [ht]
    rfl

/-! ## Worlds -/

def ofWorld (w : World) : Platform where
  policy := w.policy
  provider := w.tokens.answer
  providerDelay := w.tokens.delay
  providerLimit := w.providerLimit
  memory := w.memory
  storeLimit := w.storeLimit

/-- Where no validation breaks down, calls are dealt with in a world as on its platform. -/
theorem surroundings_ofWorld {w : World} (h : ∀ c, w.tokens.breaks c = false) :
    (ofWorld w).surroundings = w.surroundings := by
  unfold surroundings World.surroundings ofWorld
  congr 1
  funext c
  cases c with
  | provider c => simp only [h, Bool.false_eq_true, ↓reduceIte]
  | store c => rfl

/-- A request to a world ends with the result on the world's platform. -/
theorem holdDirectly_eq {w : World} (h : ∀ c, w.tokens.breaks c = false) (request : Request) :
    (w.holdDirectly request).2.1 = .result ((ofWorld w).result request) := by
  obtain ⟨time, ht⟩ := (ofWorld w).proceed_eq w.now (Admission.run w.policy request)
  rw [surroundings_ofWorld h] at ht
  simp only [World.holdDirectly, World.hold, ht]
  rfl

/-! ## Answers -/

/-- The identity provider answers a call with a value, and in time. -/
def Provides (c : ProviderCall) (x : c.Value) : Prop :=
  p.providerDelay c ≤ p.providerLimit ∧ p.provider c = .ok x

/-- The store answers calls, and in time. -/
def StoreAnswers : Prop := p.memory.available = true ∧ p.memory.latency ≤ p.storeLimit

variable {p}

theorem providerAnswer_eq_ok {c : ProviderCall} {x : c.Value} :
    p.providerAnswer c = .ok x ↔ p.Provides c x := by
  unfold providerAnswer Provides
  by_cases h : p.providerLimit < p.providerDelay c
  · simp [h, Nat.not_le.mpr h]
  · simp [h, Nat.le_of_not_lt h]

theorem storeAnswer_eq_ok {c : StoreCall} {x : c.Value} :
    p.storeAnswer c = .ok x ↔ p.StoreAnswers ∧ p.memory.find c = x := by
  unfold storeAnswer StoreAnswers Memory.answer
  by_cases h : p.storeLimit < p.memory.latency
  · simp [h, Nat.not_le.mpr h]
  · by_cases ha : p.memory.available = true
    · simp [h, ha, Nat.le_of_not_lt h]
    · simp [h, ha]

theorem storeAnswer_eq (h : p.StoreAnswers) (c : StoreCall) :
    p.storeAnswer c = .ok (p.memory.find c) :=
  storeAnswer_eq_ok.mpr ⟨h, rfl⟩

theorem outcome_ofProvider (c : ProviderCall) (failure : ProviderFault → Failure) :
    Stage.outcome p.answer (Stage.ofProvider c failure) =
      (p.providerAnswer c).mapError fun fault => ⟨failure fault, none⟩ := rfl

theorem outcome_ofStore (c : StoreCall) :
    Stage.outcome p.answer (Stage.ofStore c) =
      (p.storeAnswer c).mapError fun fault => ⟨.internal fault.message, none⟩ := rfl

theorem outcome_ofProvider_eq_ok {c : ProviderCall} {failure : ProviderFault → Failure}
    {x : c.Value} :
    Stage.outcome p.answer (Stage.ofProvider c failure) = .ok x ↔ p.Provides c x := by
  rw [outcome_ofProvider, mapError_eq_ok, providerAnswer_eq_ok]

theorem outcome_ofStore_eq_ok {c : StoreCall} {x : c.Value} :
    Stage.outcome p.answer (Stage.ofStore c) = .ok x ↔ p.StoreAnswers ∧ p.memory.find c = x := by
  rw [outcome_ofStore, mapError_eq_ok, storeAnswer_eq_ok]

/-- A store that is asked in a stage and does not answer is a failure inside the server. -/
theorem outcome_ofStore_error {c : StoreCall} {r : Refusal}
    (h : Stage.outcome p.answer (Stage.ofStore c) = .error r) :
    ∃ reason, r = ⟨.internal reason, none⟩ := by
  rw [outcome_ofStore, mapError_eq_error] at h
  obtain ⟨fault, -, rfl⟩ := h
  exact ⟨_, rfl⟩

/-- Where the store answers, a stage that asks it goes on with what it finds. -/
theorem outcome_ofStore_bind (h : p.StoreAnswers) (c : StoreCall) {α : Type}
    (f : c.Value → Stage α) :
    Stage.outcome p.answer (Stage.ofStore c >>= f) =
      Stage.outcome p.answer (f (p.memory.find c)) := by
  rw [Stage.outcome_bind, outcome_ofStore_eq_ok.mpr ⟨h, rfl⟩]
  rfl

/-! ## Results -/

theorem result_eq (request : Request) :
    p.result request =
      (Stage.outcome p.answer
        (Admission.identify p.policy request (.ofHeaders request.headers))).mapError
          (·.failure) :=
  Admission.result_answered ..

theorem calls_eq (request : Request) :
    p.calls request =
      Stage.calls p.answer
        (Admission.identify p.policy request (.ofHeaders request.headers)) := by
  unfold calls
  rw [Admission.run_eq, Dialogue.asked_bind]
  exact List.append_nil _

end Platform

end Gatehouse
