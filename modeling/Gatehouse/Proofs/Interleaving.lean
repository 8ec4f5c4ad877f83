import Gatehouse.Proofs.Accounting
import Gatehouse.Proofs.Handling

/-!
# Requests at the same time

Requests that are handled at the same time share one store, and their calls may be begun and
answered in any order. A schedule says whose turn it is, over and over; at its turn a run begins a
call or takes the answer to the one that it waits for. Every run comes to the end that it comes to
alone, and the store ends up the same but for what it counts, which is what all of them ask of it
(`undisturbed`). The reason is that calls change nothing in the store but what it counts, and that
no answer depends on this.
-/

namespace Gatehouse

open Store

variable {α : Type}

/-! ## One run, step by step -/

namespace Run

/-- A run after its next step, and the call that it begins if it begins one. -/
def step (s : Surroundings) : Run α → Run α × List Call
  | .ready time (.done a) => (.ended time a, [])
  | .ready time (.ask c next) => (.waiting (time + s.wait c) c (s.isLate c) next, [c])
  | .waiting wake c late next =>
    match s.outcome c late with
    | none => (.broken wake, [])
    | some x => (.ready wake (next x), [])
  | run => (run, [])

def isOver (run : Run α) : Bool := run.endTime?.isSome

/-- The end that a run is bound for, and the calls that it will begin on the way. -/
def prospect (s : Surroundings) (run : Run α) : Run α × List Call := run.follow s (fun _ => true)

variable (s : Surroundings)

/-- A step does not change what a run is bound for. -/
theorem prospect_step (run : Run α) :
    run.prospect s =
      (((run.step s).1.prospect s).1, (run.step s).2 ++ ((run.step s).1.prospect s).2) := by
  cases run with
  | ready time rest =>
    cases rest with
    | done a => rfl
    | ask c next =>
      simp only [prospect, step, follow, proceed, ↓reduceIte, List.cons_append, List.nil_append]
      cases s.outcome c (s.isLate c) with
      | none => rfl
      | some x => rfl
  | waiting wake c late next =>
    simp only [prospect, step, follow, ↓reduceIte]
    cases s.outcome c late with
    | none => rfl
    | some x => rfl
  | ended time a => rfl
  | broken time => rfl

/-- A run that is over is where it was bound for, and begins no more calls. -/
theorem prospect_of_isOver {run : Run α} (h : run.isOver = true) : run.prospect s = (run, []) := by
  cases run with
  | ready time rest => cases h
  | waiting wake c late next => cases h
  | ended time a => rfl
  | broken time => rfl

/-- A run that is given enough turns is over. -/
theorem isOver_steps (run : Run α) :
    ∃ n, ((fun run : Run α => (run.step s).1)^[n] run).isOver = true := by
  have hready : ∀ (rest : Exchange α) (time : Nat),
      ∃ n, ((fun run : Run α => (run.step s).1)^[n] (.ready time rest)).isOver = true := by
    intro rest
    induction rest with
    | done a => exact fun time => ⟨1, rfl⟩
    | ask c next ih =>
      intro time
      cases hx : s.outcome c (s.isLate c) with
      | none =>
        refine ⟨2, ?_⟩
        simp [step, hx, isOver, endTime?]
      | some x =>
        obtain ⟨n, hn⟩ := ih x (time + s.wait c)
        refine ⟨n + 2, ?_⟩
        simpa [step, hx] using hn
  cases run with
  | ready time rest => exact hready rest time
  | waiting wake c late next =>
    cases hx : s.outcome c late with
    | none =>
      refine ⟨1, ?_⟩
      simp [step, hx, isOver, endTime?]
    | some x =>
      obtain ⟨n, hn⟩ := hready (next x) wake
      refine ⟨n + 1, ?_⟩
      simpa [step, hx] using hn
  | ended time a => exact ⟨0, rfl⟩
  | broken time => exact ⟨0, rfl⟩

/-- Every run is bound for an end. -/
theorem isOver_prospect (run : Run α) : (run.prospect s).1.isOver = true := by
  obtain ⟨n, hn⟩ := run.isOver_steps s
  induction n generalizing run with
  | zero =>
    have hover : run.isOver = true := hn
    rw [prospect_of_isOver s hover]
    exact hover
  | succ n ih =>
    rw [prospect_step]
    exact ih (run.step s).1 hn

end Run

/-! ## Runs that share a world -/

/-- The run of a request that has not done anything yet. -/
def World.start (w : World) (request : Request) : Run Verdict :=
  .ready w.now (Admission.run w.policy request)

/-- A world and the runs that go on in it. -/
structure Scene where
  world : World
  runs : List (Run Verdict)

namespace Scene

/-- The runs of requests before any of them has done anything. -/
def opening (w : World) (requests : List Request) : Scene where
  world := w
  runs := requests.map w.start

/-- The run with a number takes its next step. -/
def turn (scene : Scene) (i : Nat) : Scene :=
  match scene.runs[i]? with
  | none => scene
  | some run =>
    let (run, calls) := run.step scene.world.surroundings
    ⟨scene.world.countCalls calls, scene.runs.set i run⟩

/-- The runs take turns as a schedule says. -/
def play (scene : Scene) (schedule : List Nat) : Scene := schedule.foldl turn scene

/-- All runs are over. -/
def IsOver (scene : Scene) : Prop := ∀ run ∈ scene.runs, run.isOver = true

end Scene

/-! ## What a call leaves alone -/

namespace World

/-- A world whose store has counted something else. -/
def withCounts (w : World) (counts : CallCounts) : World :=
  { w with memory := { w.memory with counts := counts } }

theorem countCalls_eq (w : World) (calls : List Call) :
    w.countCalls calls = w.withCounts (w.countCalls calls).memory.counts := by
  unfold withCounts
  rw [← Admission.memory_countCalls]
  rfl

/-- No answer depends on what the store has counted. -/
theorem surroundings_withCounts (w : World) (counts : CallCounts) :
    (w.withCounts counts).surroundings = w.surroundings := by
  unfold surroundings
  congr 1

/-- How much a request that is handled alone adds to a number. -/
def adds (w : World) (request : Request) (k : Counter) : Nat :=
  (w.holdDirectly request).1.memory.counts.get k - w.memory.counts.get k

variable {w : World}

/-- Where nothing else goes on, a request comes to the end that its run is bound for. -/
theorem holdDirectly_eq_prospect (hquiet : w.background = []) (request : Request) :
    (w.holdDirectly request).2 =
      Platform.endOfRun ((w.start request).prospect w.surroundings).1 := by
  have hover := Run.isOver_prospect w.surroundings (w.start request)
  rw [← Platform.conclude_of_ends hover]
  unfold holdDirectly hold
  dsimp only
  rw [Platform.settle_of_quiet hquiet]
  rfl

/-- What it adds to a number are the calls that its run will begin. -/
theorem adds_eq_countP (hquiet : w.background = []) (request : Request) (k : Counter) :
    w.adds request k =
      ((w.start request).prospect w.surroundings).2.countP (Admission.adds k) := by
  unfold adds
  rw [Admission.memory_holdDirectly hquiet, Admission.get_counts_countCalls]
  exact Nat.add_sub_cancel_left ..

end World

/-! ## Taking turns -/

namespace Scene

/-- The ends that the runs are bound for. -/
def ends (scene : Scene) : List (Run Verdict) :=
  scene.runs.map fun run => (run.prospect scene.world.surroundings).1

/-- How much the runs will still add to a number. -/
def due (scene : Scene) (k : Counter) : Nat :=
  (scene.runs.map fun run =>
    (run.prospect scene.world.surroundings).2.countP (Admission.adds k)).sum

/-- From one scene to another, runs stay bound for the same ends, nothing but the counts of the
store has changed, and whatever was counted is due no more. -/
structure LeadsTo (scene later : Scene) : Prop where
  world : later.world = scene.world.withCounts later.world.memory.counts
  ends : later.ends = scene.ends
  counts : ∀ k, later.world.memory.counts.get k + later.due k =
    scene.world.memory.counts.get k + scene.due k

theorem LeadsTo.refl (scene : Scene) : scene.LeadsTo scene := ⟨rfl, rfl, fun _ => rfl⟩

theorem LeadsTo.trans {a b c : Scene} (hab : a.LeadsTo b) (hbc : b.LeadsTo c) : a.LeadsTo c := by
  refine ⟨?_, hbc.ends.trans hab.ends, fun k => (hbc.counts k).trans (hab.counts k)⟩
  rw [hbc.world, hab.world]
  rfl

theorem LeadsTo.surroundings {scene later : Scene} (h : scene.LeadsTo later) :
    later.world.surroundings = scene.world.surroundings := by
  rw [h.world]
  exact World.surroundings_withCounts ..

theorem sum_set_add {l : List Nat} {i a : Nat} (h : l[i]? = some a) (b : Nat) :
    (l.set i b).sum + a = l.sum + b := by
  induction l generalizing i with
  | nil => simp at h
  | cons c l ih =>
    cases i with
    | zero =>
      have hc : c = a := by simpa using h
      simp only [List.set_cons_zero, List.sum_cons]
      omega
    | succ i =>
      have htail := ih (i := i) (by simpa using h)
      simp only [List.set_cons_succ, List.sum_cons]
      omega

/-- What one turn preserves. -/
theorem leadsTo_turn (scene : Scene) (i : Nat) : scene.LeadsTo (scene.turn i) := by
  unfold turn
  cases hrun : scene.runs[i]? with
  | none => exact .refl scene
  | some run =>
    dsimp only
    generalize hcalls : (run.step scene.world.surroundings).2 = calls
    have hprospect := run.prospect_step scene.world.surroundings
    rw [hcalls] at hprospect
    have hworld := scene.world.countCalls_eq calls
    have hsurroundings : (scene.world.countCalls calls).surroundings = scene.world.surroundings := by
      rw [hworld]
      exact World.surroundings_withCounts ..
    refine ⟨hworld, ?_, ?_⟩
    · simp only [ends, hsurroundings, List.map_set]
      have hsame : (scene.runs.map fun run => (run.prospect scene.world.surroundings).1)[i]? =
          some ((run.step scene.world.surroundings).1.prospect scene.world.surroundings).1 := by
        rw [List.getElem?_map, hrun, Option.map_some, hprospect]
      obtain ⟨hi, hsame⟩ := List.getElem?_eq_some_iff.mp hsame
      rw [← hsame, List.set_getElem_self]
    · intro k
      simp only [due, hsurroundings, List.map_set, Admission.get_counts_countCalls]
      have hhere : (scene.runs.map fun run =>
          (run.prospect scene.world.surroundings).2.countP (Admission.adds k))[i]? =
            some (calls.countP (Admission.adds k) +
              ((run.step scene.world.surroundings).1.prospect
                scene.world.surroundings).2.countP (Admission.adds k)) := by
        rw [List.getElem?_map, hrun, Option.map_some, hprospect, List.countP_append]
      have hsum := sum_set_add hhere
        (((run.step scene.world.surroundings).1.prospect
          scene.world.surroundings).2.countP (Admission.adds k))
      omega

theorem leadsTo_play (scene : Scene) (schedule : List Nat) :
    scene.LeadsTo (scene.play schedule) := by
  induction schedule generalizing scene with
  | nil => exact .refl scene
  | cons i schedule ih => exact (scene.leadsTo_turn i).trans (ih (scene.turn i))

/-! ## Ends -/

theorem play_append (scene : Scene) (first last : List Nat) :
    scene.play (first ++ last) = (scene.play first).play last := List.foldl_append

/-- A run that has all turns to itself moves on alone. -/
theorem runs_play_replicate {scene : Scene} {i : Nat} {run : Run Verdict}
    (hrun : scene.runs[i]? = some run) (n : Nat) :
    (scene.play (List.replicate n i)).runs = scene.runs.set i
      ((fun run : Run Verdict => (run.step scene.world.surroundings).1)^[n] run) := by
  induction n generalizing scene run with
  | zero =>
    obtain ⟨hi, rfl⟩ := List.getElem?_eq_some_iff.mp hrun
    simp [play]
  | succ n ih =>
    have hturn : (scene.turn i).runs =
        scene.runs.set i (run.step scene.world.surroundings).1 := by
      unfold turn
      rw [hrun]
    have hnext : (scene.turn i).runs[i]? = some (run.step scene.world.surroundings).1 := by
      obtain ⟨hi, -⟩ := List.getElem?_eq_some_iff.mp hrun
      rw [hturn, List.getElem?_set_self hi]
    change ((scene.turn i).play (List.replicate n i)).runs = _
    rw [ih hnext, (scene.leadsTo_turn i).surroundings, hturn, List.set_set, Function.iterate_succ_apply]

theorem LeadsTo.length_runs {scene later : Scene} (h : scene.LeadsTo later) :
    later.runs.length = scene.runs.length := by
  have hlength := congrArg List.length h.ends
  simpa [Scene.ends] using hlength

/-- From any scene, there is a way on to one in which all runs are over. -/
theorem exists_isOver (scene : Scene) : ∃ more, (scene.play more).IsOver := by
  -- One run after the other is brought to its end.
  have hfirst : ∀ n ≤ scene.runs.length, ∃ more,
      ∀ i < n, ∀ run, (scene.play more).runs[i]? = some run → run.isOver = true := by
    intro n
    induction n with
    | zero => exact fun _ => ⟨[], fun i hi => absurd hi (Nat.not_lt_zero i)⟩
    | succ n ih =>
      intro hn
      obtain ⟨more, hmore⟩ := ih (by omega)
      generalize hreached : scene.play more = reached at hmore
      have hlength : reached.runs.length = scene.runs.length := by
        rw [← hreached]
        exact (scene.leadsTo_play more).length_runs
      have hlt : n < reached.runs.length := by omega
      obtain ⟨turns, hturns⟩ := reached.runs[n].isOver_steps reached.world.surroundings
      refine ⟨more ++ List.replicate turns n, ?_⟩
      intro i hi run hrun
      rw [play_append, hreached, runs_play_replicate (List.getElem?_eq_getElem hlt)] at hrun
      by_cases hin : i = n
      · subst hin
        rw [List.getElem?_set_self hlt] at hrun
        rw [← Option.some.inj hrun]
        exact hturns
      · rw [List.getElem?_set_ne (Ne.symm hin)] at hrun
        exact hmore i (by omega) run hrun
  obtain ⟨more, hmore⟩ := hfirst scene.runs.length le_rfl
  refine ⟨more, ?_⟩
  intro run hrun
  obtain ⟨i, hi, hget⟩ := List.mem_iff_getElem.mp hrun
  have hlength := (scene.leadsTo_play more).length_runs
  exact hmore i (by omega) run (List.getElem?_eq_some_iff.mpr ⟨hi, hget⟩)

/-- Requests that are handled at the same time, in whatever order their calls are begun and
answered, can all come to their ends. Whichever has come to its end was given the result, and had
logged of it, what it would have been alone; and when all have, the store has counted what each of
them would have asked of it alone, and is the same otherwise. -/
theorem undisturbed {w : World} (hquiet : w.background = []) (requests : List Request)
    (schedule : List Nat) :
    let scene := (opening w requests).play schedule
    (∃ more, (scene.play more).IsOver) ∧
    List.Forall₂ (fun request run => run.isOver = true →
      Platform.endOfRun run = (w.holdDirectly request).2) requests scene.runs ∧
    (scene.IsOver →
      scene.world = w.withCounts scene.world.memory.counts ∧
      ∀ k, scene.world.memory.counts.get k =
        w.memory.counts.get k + (requests.map (w.adds · k)).sum) := by
  intro scene
  have hled : (opening w requests).LeadsTo scene := Scene.leadsTo_play _ schedule
  refine ⟨scene.exists_isOver, ?_, ?_⟩
  · have hbound : List.Forall₂ (fun request run => ((w.start request).prospect w.surroundings).1 =
        (run.prospect w.surroundings).1) requests scene.runs := by
      have hends : scene.runs.map (fun run => (run.prospect w.surroundings).1) =
          requests.map (fun request => ((w.start request).prospect w.surroundings).1) := by
        have hends := hled.ends
        simp only [Scene.ends, hled.surroundings] at hends
        simpa [Scene.opening, Function.comp_def] using hends
      rw [← List.forall₂_eq_eq_eq, List.forall₂_map_left_iff, List.forall₂_map_right_iff] at hends
      exact hends.flip.imp fun _ _ hsame => hsame.symm
    refine hbound.imp ?_
    intro request run hsame hover
    rw [World.holdDirectly_eq_prospect hquiet, hsame, Run.prospect_of_isOver _ hover]
  · intro hover
    refine ⟨hled.world, ?_⟩
    intro k
    have hdone : scene.due k = 0 := by
      unfold Scene.due
      rw [List.sum_eq_zero]
      intro n hn
      obtain ⟨run, hrun, rfl⟩ := List.mem_map.mp hn
      rw [Run.prospect_of_isOver _ (hover run hrun)]
      rfl
    have hdue : (opening w requests).due k = (requests.map (w.adds · k)).sum := by
      simp only [Scene.due, Scene.opening, List.map_map, World.adds_eq_countP hquiet]
      rfl
    have hcounts := hled.counts k
    rw [hdone, hdue] at hcounts
    exact hcounts

/-- The same request twice: each asks for its roles once. -/
theorem undisturbed_twice :
    Admission.stoppedWorld.background = [] ∧ ∃ schedule,
      let scene := (opening Admission.stoppedWorld
        [Admission.delegateRequest, Admission.delegateRequest]).play schedule
      scene.IsOver ∧ scene.world.memory.counts.roles = 2 := by
  have hquiet : Admission.stoppedWorld.background = [] := rfl
  have hcaller : Stage.outcome Admission.stoppedWorld.surroundings.answers
      (Admission.authenticate (.ofHeaders Admission.delegateRequest.headers)
        Admission.delegateRequest.bootstrap) =
          .ok (some ⟨⟨7⟩, some ⟨"", ""⟩, .bearerToken⟩) := by cbv
  have hasked : Admission.delegateRequest.requested.contains .delegate = true := by decide
  have halone : Admission.stoppedWorld.adds Admission.delegateRequest .roles = 1 :=
    (Admission.counted_holdDirectly hquiet Admission.delegateRequest).roles.1
      ⟨_, _, .roles hcaller (by decide : Role.delegate ≠ .cosAdmin) hasked⟩
  obtain ⟨⟨schedule, hover⟩, -⟩ := undisturbed hquiet
    [Admission.delegateRequest, Admission.delegateRequest] []
  obtain ⟨-, -, hend⟩ := undisturbed hquiet
    [Admission.delegateRequest, Admission.delegateRequest] schedule
  have hcount := (hend hover).2 .roles
  refine ⟨hquiet, schedule, hover, ?_⟩
  rw [List.map_cons, List.map_cons, List.map_nil, halone] at hcount
  exact hcount

end Scene

end Gatehouse
