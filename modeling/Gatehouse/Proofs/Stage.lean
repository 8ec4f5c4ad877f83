import Gatehouse.Proofs.Except
import Gatehouse.Stage

/-!
# What stages come to

When one function answers every call, a stage comes to a value or to a refusal (`outcome`), and
makes the calls `calls` on the way. Both are computed step by step: a stage goes on as long as the
stages before it yield values, and makes no call after the first refusal.
-/

namespace Gatehouse.Stage

variable {α β : Type} (answer : (c : Call) → c.Answer)

/-- What a stage comes to when a function answers every call. -/
def outcome (s : Stage α) : Except Refusal α := s.run.answered answer

def calls (s : Stage α) : List Call := s.run.asked answer

/-! ## Outcomes -/

@[simp] theorem outcome_pure (a : α) : outcome answer (pure a) = .ok a := rfl

@[simp] theorem outcome_throw (r : Refusal) : outcome answer (throw r : Stage α) = .error r := rfl

@[simp] theorem outcome_refuse (f : Failure) :
    outcome answer (refuse f : Stage α) = .error ⟨f, none⟩ := rfl

@[simp] theorem outcome_bind (s : Stage α) (f : α → Stage β) :
    outcome answer (s >>= f) = outcome answer s >>= fun a => outcome answer (f a) := by
  unfold outcome
  rw [ExceptT.run_bind, Dialogue.bind_eq, Dialogue.answered_bind]
  cases s.run.answered answer with
  | ok a => rfl
  | error r => rfl

@[simp] theorem outcome_map (g : α → β) (s : Stage α) :
    outcome answer (g <$> s) = (outcome answer s).map g := by
  have h : g <$> s = s >>= fun a => pure (g a) := (bind_pure_comp g s).symm
  rw [h, outcome_bind]
  cases outcome answer s with
  | ok a => rfl
  | error r => rfl

@[simp] theorem outcome_ofExcept (x : Except Failure α) :
    outcome answer (ofExcept x) = x.mapError fun f => ⟨f, none⟩ := by
  cases x with
  | ok a => rfl
  | error f => rfl

@[simp] theorem outcome_lift (x : Exchange α) :
    outcome answer (liftM x : Stage α) = .ok (x.answered answer) := by
  unfold outcome
  change (Except.ok <$> x : Exchange (Except Refusal α)).answered answer = .ok (x.answered answer)
  rw [Dialogue.map_eq, Dialogue.answered_bind]
  rfl

@[simp] theorem outcome_liftExcept (x : Except Refusal α) :
    outcome answer (liftM x : Stage α) = x := rfl

theorem outcome_ofStore (c : StoreCall) :
    outcome answer (ofStore c) =
      (answer (.store c) : c.Answer).mapError fun fault => ⟨.internal fault.message, none⟩ := rfl

/-! ## Calls -/

@[simp] theorem calls_pure (a : α) : calls answer (pure a) = [] := rfl

@[simp] theorem calls_refuse (f : Failure) : calls answer (refuse f : Stage α) = [] := rfl

@[simp] theorem calls_lift (x : Exchange α) :
    calls answer (liftM x : Stage α) = x.asked answer := by
  unfold calls
  change (Except.ok <$> x : Exchange (Except Refusal α)).asked answer = x.asked answer
  rw [Dialogue.map_eq, Dialogue.asked_bind]
  exact List.append_nil _

/-- What follows a stage makes its calls only if the stage yields a value. -/
theorem calls_bind (s : Stage α) (f : α → Stage β) :
    calls answer (s >>= f) = calls answer s ++
      match outcome answer s with
      | .ok a => calls answer (f a)
      | .error _ => [] := by
  unfold calls outcome
  rw [ExceptT.run_bind, Dialogue.bind_eq, Dialogue.asked_bind]
  cases s.run.answered answer with
  | ok a => rfl
  | error r => rfl

theorem calls_bind_of_error {s : Stage α} {f : α → Stage β} {r : Refusal}
    (h : outcome answer s = .error r) : calls answer (s >>= f) = calls answer s := by
  rw [calls_bind, h, List.append_nil]

@[simp] theorem calls_map (g : α → β) (s : Stage α) :
    calls answer (g <$> s) = calls answer s := by
  have h : g <$> s = s >>= fun a => pure (g a) := (bind_pure_comp g s).symm
  rw [h, calls_bind]
  cases outcome answer s with
  | ok a => exact List.append_nil _
  | error r => exact List.append_nil _

@[simp] theorem calls_ofExcept (x : Except Failure α) : calls answer (ofExcept x) = [] := by
  cases x with
  | ok a => rfl
  | error f => rfl

@[simp] theorem calls_ofProvider (c : ProviderCall) (failure : ProviderFault → Failure) :
    calls answer (ofProvider c failure) = [.provider c] := rfl

@[simp] theorem calls_ofStore (c : StoreCall) : calls answer (ofStore c) = [.store c] := rfl

/-- What follows a stage makes a call if the stage yields a value from which it does. -/
theorem mem_calls_bind {s : Stage α} {f : α → Stage β} {c : Call} :
    c ∈ calls answer (s >>= f) ↔
      c ∈ calls answer s ∨ ∃ a, outcome answer s = .ok a ∧ c ∈ calls answer (f a) := by
  rw [calls_bind, List.mem_append]
  cases outcome answer s with
  | ok a => simp
  | error r => simp

/-- What holds of the calls of two stages in a row holds of the calls of both. -/
theorem forall_calls_bind {P : Call → Prop} {s : Stage α} {f : α → Stage β}
    (hs : ∀ c ∈ calls answer s, P c)
    (hf : ∀ a, outcome answer s = .ok a → ∀ c ∈ calls answer (f a), P c) :
    ∀ c ∈ calls answer (s >>= f), P c := by
  intro c hc
  rcases (mem_calls_bind answer).mp hc with hc | ⟨a, ha, hc⟩
  · exact hs c hc
  · exact hf a ha c hc

theorem pairwise_calls_bind {R : Call → Call → Prop} {s : Stage α} {f : α → Stage β}
    (hs : (calls answer s).Pairwise R)
    (hf : ∀ a, outcome answer s = .ok a → (calls answer (f a)).Pairwise R)
    (hsf : ∀ c ∈ calls answer s, ∀ a, outcome answer s = .ok a →
      ∀ c' ∈ calls answer (f a), R c c') :
    (calls answer (s >>= f)).Pairwise R := by
  rw [calls_bind]
  cases h : outcome answer s with
  | ok a => exact List.pairwise_append.mpr ⟨hs, hf a h, fun c hc c' hc' => hsf c hc a h c' hc'⟩
  | error r =>
    rw [List.append_nil]
    exact hs

end Gatehouse.Stage
