import Gatehouse.Proofs.Handling

/-!
# How runs end

Calls may be answered in any way and after any time, and those who should answer may break down
(`Surroundings`). A run is followed through any stretches of time, each in surroundings of its own;
what it ends with is a result that some answers lead to (`mayEnd_of_followAll`). It comes to an end
when it is waited for and nobody breaks down (`ends_of_sound`). The service responds to a request in
a world by the end of its run alone, whatever else goes on there (`serve_eq_respond`).
-/

namespace Gatehouse

variable {α β : Type}

/-! ## Results that answers lead to -/

namespace Dialogue

variable {Q : Type} {A : Q → Type}

/-- Some answers lead to a result. -/
def MayEnd (a : α) : Dialogue Q A α → Prop
  | .done b => b = a
  | .ask _ next => ∃ x, (next x).MayEnd a

theorem mayEnd_bind {d : Dialogue Q A α} {f : α → Dialogue Q A β} {b : β} :
    (d.bind f).MayEnd b ↔ ∃ a, d.MayEnd a ∧ (f a).MayEnd b := by
  induction d with
  | done a => simp [MayEnd]
  | ask q next ih =>
    simp only [ask_bind, MayEnd, ih]
    constructor
    · rintro ⟨x, a, ha, hb⟩
      exact ⟨a, ⟨x, ha⟩, hb⟩
    · rintro ⟨a, ⟨x, ha⟩, hb⟩
      exact ⟨x, a, ha, hb⟩

end Dialogue

namespace Run

variable {s : Surroundings} {within : Nat → Bool} {a : α}

/-- Some answers from here on lead to a result. -/
def MayEnd (a : α) : Run α → Prop
  | .ready _ rest => rest.MayEnd a
  | .waiting _ _ _ next => ∃ x, (next x).MayEnd a
  | .ended _ b => b = a
  | .broken _ => False

theorem mayEnd_of_proceed {now : Nat} {d : Exchange α}
    (h : (proceed s within now d).1.MayEnd a) : d.MayEnd a := by
  induction d generalizing now with
  | done b => exact h
  | ask c next ih =>
    simp only [proceed] at h
    by_cases hwake : within (now + s.wait c) = true
    · rw [if_pos hwake] at h
      cases hout : s.outcome c (s.isLate c) with
      | none =>
        rw [hout] at h
        cases h
      | some x =>
        rw [hout] at h
        exact ⟨x, ih x h⟩
    · rw [if_neg hwake] at h
      exact h

/-- Following a run a while leaves no results that it could not have had before. -/
theorem mayEnd_of_follow {r : Run α} (h : (follow s within r).1.MayEnd a) : r.MayEnd a := by
  cases r with
  | ready time rest =>
    simp only [follow] at h
    by_cases hin : within time = true
    · rw [if_pos hin] at h
      exact mayEnd_of_proceed h
    · rw [if_neg hin] at h
      exact h
  | waiting wake c late next =>
    simp only [follow] at h
    by_cases hin : within wake = true
    · rw [if_pos hin] at h
      cases hout : s.outcome c late with
      | none =>
        rw [hout] at h
        cases h
      | some x =>
        rw [hout] at h
        exact ⟨x, mayEnd_of_proceed h⟩
    · rw [if_neg hin] at h
      exact h
  | ended time b => exact h
  | broken time => exact h

/-- Follows a run through stretches of time, each in its own surroundings. -/
def followAll (stretches : List (Surroundings × (Nat → Bool))) (r : Run α) : Run α :=
  stretches.foldl (fun r stretch => (follow stretch.1 stretch.2 r).1) r

theorem mayEnd_of_followAll {stretches : List (Surroundings × (Nat → Bool))} {r : Run α}
    (h : (followAll stretches r).MayEnd a) : r.MayEnd a := by
  induction stretches generalizing r with
  | nil => exact h
  | cons stretch stretches ih => exact mayEnd_of_follow (ih h)

/-- Where nobody breaks down, every computation that is waited for comes to its end. -/
theorem ends_of_sound (hsound : ∀ c, (s.answer c).isSome = true) (now : Nat) (d : Exchange α) :
    ∃ time a, (proceed s (fun _ => true) now d).1 = .ended time a := by
  induction d generalizing now with
  | done a => exact ⟨now, a, rfl⟩
  | ask c next ih =>
    obtain ⟨x, hout⟩ : ∃ x, s.outcome c (s.isLate c) = some x := by
      unfold Surroundings.outcome
      cases s.isLate c with
      | true => exact ⟨_, rfl⟩
      | false => exact Option.isSome_iff_exists.mp (hsound c)
    obtain ⟨time, a, hrun⟩ := ih x (now + s.wait c)
    refine ⟨time, a, ?_⟩
    simp only [proceed, ↓reduceIte, hout, hrun]

end Run

/-! ## Answers that a caller is told -/

namespace Surroundings

variable (s : Surroundings)

/-- What a caller is told in the end; an answer that never comes counts as late. -/
def answers (c : Call) : c.Answer := (s.outcome c (s.isLate c)).getD c.late

variable {s}

theorem answers_of_some {c : Call} {x : c.Answer} (h : s.outcome c (s.isLate c) = some x) :
    s.answers c = x := by
  unfold answers
  rw [h]
  rfl

theorem answers_of_none {c : Call} (h : s.outcome c (s.isLate c) = none) :
    s.answers c = c.late := by
  unfold answers
  rw [h]
  rfl

end Surroundings

/-- A run that comes to its end has the result that these answers lead to. -/
theorem Run.answered_of_ended {s : Surroundings} {within : Nat → Bool} {now time : Nat}
    {d : Exchange α} {a : α} (h : (proceed s within now d).1 = .ended time a) :
    a = d.answered s.answers := by
  induction d generalizing now with
  | done b =>
    cases h
    rfl
  | ask c next ih =>
    simp only [proceed] at h
    by_cases hwake : within (now + s.wait c) = true
    · rw [if_pos hwake] at h
      cases hout : s.outcome c (s.isLate c) with
      | none =>
        rw [hout] at h
        cases h
      | some x =>
        rw [hout] at h
        rw [ih x h, Dialogue.answered, Surroundings.answers_of_some hout]
    · rw [if_neg hwake] at h
      cases h

/-! ## Waiting for the end of a run -/

open Http

namespace Surroundings

variable (s : Surroundings) (policy : Policy) (within : Nat → Bool) (now : Nat)

/-- The end of the run of a request that is waited for through a part of time. -/
def endOf (request : Request) : RunEnd :=
  (Platform.endOfRun (Run.follow s within (.ready now (Admission.run policy request))).1).1

/-- The response that a web request leads to. -/
def respond : Handling → Response
  | .immediate response => response
  | .guarded request respond => respond (s.endOf policy within now request)

end Surroundings

/-- A request that is waited for until its run has a result is given the one of its answers. -/
theorem Surroundings.result_of_endOf {s : Surroundings} {policy : Policy} {within : Nat → Bool}
    {now : Nat} {request : Request} {r : Except Failure (Option IdentityContext)}
    (h : s.endOf policy within now request = .result r) :
    ((Admission.run policy request).answered s.answers).result = r := by
  unfold endOf Run.follow at h
  dsimp only at h
  split at h
  · cases hrun : (Run.proceed s within now (Admission.run policy request)).1 with
    | ended time v =>
      rw [hrun] at h
      cases h
      rw [Run.answered_of_ended hrun]
    | ready time rest =>
      rw [hrun] at h
      cases h
    | waiting wake c late next =>
      rw [hrun] at h
      cases h
    | broken time =>
      rw [hrun] at h
      cases h
  · cases h

/-- On a platform, a run that is waited for ends with the result of its request. -/
theorem Platform.endOf_surroundings (p : Platform) (now : Nat) (request : Request) :
    p.surroundings.endOf p.policy (fun _ => true) now request = .result (p.result request) := by
  obtain ⟨time, hrun⟩ := p.proceed_eq now (Admission.run p.policy request)
  unfold Surroundings.endOf
  simp only [Run.follow, ↓reduceIte, hrun]
  rfl

/-- In a world, the service responds as the surroundings of the run have it, even if other runs go
on beside it. -/
theorem World.serve_eq_respond (w : World) (r : WebRequest) :
    (w.serve r).2.1 = w.surroundings.respond w.policy (· < w.now + w.requestLimit) w.now
      (Surface.handle w.publicPaths r) := by
  unfold serve
  cases Surface.handle w.publicPaths r with
  | immediate response => rfl
  | guarded request respond =>
    refine congrArg respond ?_
    unfold holdRunWithin Surroundings.endOf
    dsimp only
    cases (Run.follow w.surroundings (· < w.now + w.requestLimit)
      (.ready w.now (Admission.run w.policy request))).1 with
    | ready time rest => rfl
    | waiting wake c late next => rfl
    | ended time v => rfl
    | broken time => rfl

end Gatehouse
