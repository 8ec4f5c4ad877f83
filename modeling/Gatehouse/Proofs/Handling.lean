import Gatehouse.Proofs.Platform

/-!
# Web requests on a platform

What a web request comes to on a platform: the response, and what is logged of its run, when the run
is waited for through a part of time only (`respond`). A run that is not cut off comes to the
verdict on the request (`endOf_of_ends`). A world in which nothing else goes on responds as its
platform does, with a limit on the time of a request (`serve_ofWorld`) and without one
(`serveGuarded_ofWorld`).
-/

namespace Gatehouse.Platform

open Http

variable (p : Platform) (within : Nat → Bool) (now : Nat) (request : Request)

/-- The run of a request that starts at a time, as far as a part of time goes. -/
def runWithin : Run Verdict :=
  (Run.follow p.surroundings within (.ready now (Admission.run p.policy request))).1

/-- The run of a request comes to its end within a part of time. -/
def EndsWithin : Prop := (p.runWithin within now request).endTime?.isSome = true

/-- The end of a run for whoever waits for it, and what is logged of it. -/
def endOfRun : Run Verdict → RunEnd × Log
  | .ended _ v => (.result v.result, Log.add {} v)
  | .broken _ => (.broken, {})
  | _ => (.cutOff, {})

/-- The end of the run of a request that is waited for through a part of time. -/
def endOf : RunEnd × Log := endOfRun (p.runWithin within now request)

/-- The response that a web request leads to, and what is logged. -/
def respond : Handling → Response × Log
  | .immediate response => (response, {})
  | .guarded request respond =>
    (respond (p.endOf within now request).1, (p.endOf within now request).2)

@[simp] theorem respond_guarded (respond : RunEnd → Response) :
    p.respond within now (.guarded request respond) =
      (respond (p.endOf within now request).1, (p.endOf within now request).2) := rfl

/-! ## Ends of runs -/

variable {p within now request}

/-- A run that comes to its end within a part of time has the result computed from the answers. -/
theorem proceed_ends {α : Type} {d : Exchange α}
    (h : (Run.proceed p.surroundings within now d).1.endTime?.isSome = true) :
    ∃ time, (Run.proceed p.surroundings within now d).1 = .ended time (d.answered p.answer) := by
  induction d generalizing now with
  | done a => exact ⟨now, rfl⟩
  | ask c next ih =>
    simp only [Run.proceed] at h ⊢
    by_cases hwake : within (now + p.surroundings.wait c) = true
    · simp only [hwake, ↓reduceIte, p.outcome_eq c] at h ⊢
      exact ih (p.answer c) h
    · simp only [hwake, Bool.false_eq_true, ↓reduceIte] at h
      cases h

theorem endOf_of_ends (h : p.EndsWithin within now request) :
    p.endOf within now request = (.result (p.result request), Log.add {} (p.verdict request)) := by
  unfold EndsWithin runWithin at h
  unfold endOf runWithin
  simp only [Run.follow] at h ⊢
  by_cases hnow : within now = true
  · simp only [hnow, ↓reduceIte] at h ⊢
    obtain ⟨time, hend⟩ := proceed_ends h
    rw [hend]
    rfl
  · simp only [hnow, Bool.false_eq_true, ↓reduceIte] at h
    cases h

/-! ## Worlds -/

variable {w : World}

theorem settle_of_quiet (hquiet : w.background = []) (within : Nat → Bool) (calls : List Call) :
    ((w.countCalls calls).settle within {}).2 = {} := by
  have hnone : (w.countCalls calls).background = [] := hquiet
  simp [World.settle, hnone, World.inOrder]

theorem conclude_of_ends {run : Run Verdict} (h : run.endTime?.isSome = true) :
    (run.result?.elim .broken (RunEnd.result ·.result), World.Log.conclude {} run.result?) =
      endOfRun run := by
  cases run with
  | ready time rest => cases h
  | waiting wake c late next => cases h
  | ended time v => rfl
  | broken time => rfl

theorem endOfRun_of_cutOff {run : Run Verdict} (h : run.endTime? = none) :
    endOfRun run = (.cutOff, {}) := by
  cases run with
  | ready time rest => rfl
  | waiting wake c late next => rfl
  | ended time v => cases h
  | broken time => cases h

theorem holdRunWithin_eq (hquiet : w.background = []) (request : Request) :
    (w.holdRunWithin request).2 =
      endOfRun (Run.follow w.surroundings (· < w.now + w.requestLimit)
        (.ready w.now (Admission.run w.policy request))).1 := by
  unfold World.holdRunWithin
  dsimp only
  cases hend : (Run.follow w.surroundings (· < w.now + w.requestLimit)
      (.ready w.now (Admission.run w.policy request))).1.endTime? with
  | none =>
    dsimp only
    rw [endOfRun_of_cutOff hend, settle_of_quiet hquiet]
  | some time =>
    dsimp only
    rw [settle_of_quiet hquiet]
    exact conclude_of_ends (by rw [hend]; rfl)

/-- Where nothing else goes on and no validation breaks down, the service responds in a world as on
its platform. -/
theorem serve_ofWorld (hquiet : w.background = []) (hsound : ∀ c, w.tokens.breaks c = false)
    (r : WebRequest) :
    (w.serve r).2 = (ofWorld w).respond (· < w.now + w.requestLimit) w.now
      (Surface.handle w.publicPaths r) := by
  unfold World.serve
  cases Surface.handle w.publicPaths r with
  | immediate response => rfl
  | guarded request respond =>
    change (respond (w.holdRunWithin request).2.1, (w.holdRunWithin request).2.2) = _
    rw [holdRunWithin_eq hquiet, ← surroundings_ofWorld hsound, respond_guarded]
    rfl

theorem holdRun_eq (hquiet : w.background = []) (hsound : ∀ c, w.tokens.breaks c = false)
    (request : Request) :
    (w.holdRun request).2 = (ofWorld w).endOf (fun _ => true) w.now request := by
  obtain ⟨time, hrun⟩ := (ofWorld w).proceed_eq w.now (Admission.run w.policy request)
  have hend : (ofWorld w).EndsWithin (fun _ => true) w.now request := by
    unfold EndsWithin runWithin Run.follow
    dsimp only
    rw [if_pos rfl, show (ofWorld w).policy = w.policy from rfl, hrun]
    rfl
  rw [endOf_of_ends hend]
  unfold World.holdRun
  dsimp only
  rw [settle_of_quiet hquiet, ← surroundings_ofWorld hsound, hrun]
  rfl

/-- An application behind a guard responds likewise, and waits for a run until it ends. -/
theorem serveGuarded_ofWorld (hquiet : w.background = [])
    (hsound : ∀ c, w.tokens.breaks c = false) (g : Guard) (r : WebRequest) :
    (w.serveGuarded g r).2 =
      (ofWorld w).respond (fun _ => true) w.now (Surface.handleGuarded g r) := by
  unfold World.serveGuarded
  cases Surface.handleGuarded g r with
  | immediate response => rfl
  | guarded request respond =>
    change (respond (w.holdRun request).2.1, (w.holdRun request).2.2) = _
    rw [holdRun_eq hquiet hsound, respond_guarded]

end Gatehouse.Platform
