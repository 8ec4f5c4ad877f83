import Gatehouse.Proofs.Verifier
import Gatehouse.Secret.Slots

/-!
# The memory of verifications

No slot is ever lost or made: it is free, handed to a caller, or taken by a running verification
(`Balanced`). A running verification takes the memory that its stored hash asks for (`Serves`), so
all of them together keep to what the settings promise as long as no hash asks for more than the
settings do, and do not otherwise (`Slots.memory_exact`).
-/

namespace Gatehouse.Secret

open Digest

namespace Slots

variable {s s' : Slots} {v : Verifier} {e : SlotEvent} {allowed : Option String → Prop}

/-! ## One event -/

/-- What an event may do to the slots. -/
inductive Change (s : Slots) : SlotEvent → Slots → Prop
  | none {e : SlotEvent} : Change s e s
  | request (caller : Nat) (stored : Option String) :
    Change s (.request caller stored) { s with waiting := s.waiting ++ [(caller, stored)] }
  | grant {caller free : Nat} {stored : Option String}
      (waits : s.waiting.lookup caller = some stored) (isFree : s.free = free + 1) :
    Change s (.grant caller)
      { s with
        free := free
        waiting := s.waiting.eraseP (caller == ·.1)
        granted := s.granted ++ [(caller, stored)] }
  | start {caller : Nat} {stored : Option String} (holds : s.granted.lookup caller = some stored) :
    Change s (.start caller)
      { s with
        granted := s.granted.eraseP (caller == ·.1)
        running := s.running ++ [(caller, s.verifier.demand stored)] }
  | giveBack {caller : Nat} {stored : Option String}
      (holds : s.granted.lookup caller = some stored) :
    Change s (.abandon caller)
      { s with free := s.free + 1, granted := s.granted.eraseP (caller == ·.1) }
  | leave (caller : Nat) :
    Change s (.abandon caller) { s with waiting := s.waiting.eraseP (caller == ·.1) }
  | finish {caller memory : Nat} (runs : s.running.lookup caller = some memory) :
    Change s (.finish caller)
      { s with free := s.free + 1, running := s.running.eraseP (caller == ·.1) }

theorem change_step (s : Slots) (e : SlotEvent) : Change s e (s.step e) := by
  cases e with
  | request caller stored => exact .request caller stored
  | grant caller =>
    simp only [step]
    split
    · next hwaits hfree => exact .grant hwaits hfree
    · exact .none
  | start caller =>
    simp only [step]
    split
    · next hholds => exact .start hholds
    · exact .none
  | abandon caller =>
    simp only [step]
    split
    · next hholds => exact .giveBack hholds
    · exact .leave caller
  | finish caller =>
    simp only [step]
    split
    · next hruns => exact .finish hruns
    · exact .none

/-! ## Slots -/

/-- Every slot is free, handed to a caller, or taken by a running verification. -/
def Balanced (s : Slots) (slots : Nat) : Prop :=
  s.free + s.granted.length + s.running.length = slots

theorem mem_of_lookup {α : Type} {caller : Nat} {a : α} {l : List (Nat × α)}
    (h : l.lookup caller = some a) : (caller, a) ∈ l := by
  obtain ⟨l₁, l₂, rfl, -⟩ := List.lookup_eq_some_iff.mp h
  simp

theorem length_eraseP_of_lookup {α : Type} {caller : Nat} {a : α} {l : List (Nat × α)}
    (h : l.lookup caller = some a) : (l.eraseP (caller == ·.1)).length + 1 = l.length := by
  have hmem := mem_of_lookup h
  have hpos := List.length_pos_of_mem hmem
  have hlength := List.length_eraseP_of_mem (p := (caller == ·.1)) hmem (beq_self_eq_true caller)
  omega

theorem Balanced.step {slots : Nat} (h : s.Balanced slots) (e : SlotEvent) :
    (s.step e).Balanced slots := by
  have hchange := change_step s e
  generalize s.step e = s' at hchange
  unfold Balanced at h ⊢
  cases hchange with
  | none => exact h
  | request caller stored => exact h
  | grant hwaits hfree =>
    simp only [List.length_append, List.length_singleton]
    omega
  | start hholds =>
    have hlength := length_eraseP_of_lookup hholds
    simp only [List.length_append, List.length_singleton]
    omega
  | giveBack hholds =>
    have hlength := length_eraseP_of_lookup hholds
    dsimp only
    omega
  | leave caller => exact h
  | finish hruns =>
    have hlength := length_eraseP_of_lookup hruns
    dsimp only
    omega

theorem Balanced.run {slots : Nat} (h : s.Balanced slots) (events : List SlotEvent) :
    (s.run events).Balanced slots := by
  induction events generalizing s with
  | nil => exact h
  | cons e events ih => exact ih (h.step e)

theorem length_running_le (v : Verifier) (events : List SlotEvent) :
    ((idle v).run events).running.length ≤ v.slots := by
  have hidle : (idle v).Balanced v.slots := rfl
  have hbalanced := hidle.run events
  unfold Balanced at hbalanced
  omega

/-! ## Memory -/

/-- The callers ask for verifications against allowed hashes only, and those that run take what
such hashes ask for. -/
structure Serves (v : Verifier) (allowed : Option String → Prop) (s : Slots) : Prop where
  verifier : s.verifier = v
  waiting : ∀ w ∈ s.waiting, allowed w.2
  granted : ∀ w ∈ s.granted, allowed w.2
  running : ∀ r ∈ s.running, ∃ stored, allowed stored ∧ r.2 = v.demand stored

theorem forall_mem_concat {α : Type} {P : α → Prop} {l : List α} {a : α} (hl : ∀ x ∈ l, P x)
    (ha : P a) : ∀ x ∈ l ++ [a], P x :=
  List.forall_mem_append.mpr ⟨hl, List.forall_mem_singleton.mpr ha⟩

theorem Serves.step (h : s.Serves v allowed)
    (he : ∀ caller stored, e = .request caller stored → allowed stored) :
    (s.step e).Serves v allowed := by
  have hchange := change_step s e
  generalize s.step e = s' at hchange
  obtain ⟨hverifier, hwaiting, hgranted, hrunning⟩ := h
  have herase : ∀ {α : Type} {P : α → Prop} {p : α → Bool} {l : List α},
      (∀ x ∈ l, P x) → ∀ x ∈ l.eraseP p, P x :=
    fun hl x hx => hl x (List.mem_of_mem_eraseP hx)
  cases hchange with
  | none => exact ⟨hverifier, hwaiting, hgranted, hrunning⟩
  | request caller stored =>
    exact ⟨hverifier, forall_mem_concat hwaiting (he caller stored rfl), hgranted, hrunning⟩
  | grant hwaits hfree =>
    have hstored := hwaiting _ (mem_of_lookup hwaits)
    exact ⟨hverifier, herase hwaiting, forall_mem_concat hgranted hstored, hrunning⟩
  | start hholds =>
    have hstored := hgranted _ (mem_of_lookup hholds)
    refine ⟨hverifier, hwaiting, herase hgranted, forall_mem_concat hrunning ?_⟩
    exact ⟨_, hstored, by rw [hverifier]⟩
  | giveBack hholds => exact ⟨hverifier, hwaiting, herase hgranted, hrunning⟩
  | leave caller => exact ⟨hverifier, herase hwaiting, hgranted, hrunning⟩
  | finish hruns => exact ⟨hverifier, hwaiting, hgranted, herase hrunning⟩

/-- The callers of a run ask for verifications against allowed hashes only. -/
def AsksFor (allowed : Option String → Prop) (events : List SlotEvent) : Prop :=
  ∀ caller stored, .request caller stored ∈ events → allowed stored

theorem Serves.run {events : List SlotEvent} (h : s.Serves v allowed)
    (hasks : AsksFor allowed events) : (s.run events).Serves v allowed := by
  induction events generalizing s with
  | nil => exact h
  | cons e events ih =>
    apply ih
    · apply h.step
      rintro caller stored rfl
      exact hasks caller stored List.mem_cons_self
    · intro caller stored hmem
      exact hasks caller stored (List.mem_cons_of_mem e hmem)

theorem memoryInUse_le {limit : Nat} (h : ∀ r ∈ s.running, r.2 ≤ limit) :
    s.memoryInUse ≤ s.running.length * limit := by
  unfold memoryInUse
  generalize s.running = running at h
  induction running with
  | nil => simp
  | cons r running ih =>
    obtain ⟨hr, hrunning⟩ := List.forall_mem_cons.mp h
    have hrest := ih hrunning
    rw [List.foldr_cons, List.length_cons, Nat.succ_mul]
    omega

theorem demand_of_recipe {stored : String} {r : Recipe} (h : recipe stored = .ok r) :
    v.demand (some stored) = r.cost.memory := by
  simp only [Verifier.demand, h]

/-! ## All slots at once -/

/-- Callers ask one after the other for a verification against the same hash, and each has its
verification begin. -/
def rush (stored : Option String) (count : Nat) : List SlotEvent :=
  (List.range count).flatMap fun caller =>
    [.request caller stored, .grant caller, .start caller]

theorem run_rush (v : Verifier) (stored : Option String) {count : Nat} (h : count ≤ v.slots) :
    (idle v).run (rush stored count) =
      ⟨v, v.slots - count, [], [], (List.range count).map (·, v.demand stored)⟩ := by
  induction count with
  | zero => rfl
  | succ count ih =>
    obtain ⟨free, hfree⟩ : ∃ free, v.slots - count = free + 1 := ⟨v.slots - count - 1, by omega⟩
    have hrest : v.slots - (count + 1) = free := by omega
    have hrun : (idle v).run (rush stored (count + 1)) =
        ((idle v).run (rush stored count)).run
          [.request count stored, .grant count, .start count] := by
      unfold rush run
      rw [List.range_succ, List.flatMap_append, List.foldl_append]
      rfl
    rw [hrun, ih (by omega), hfree, hrest, List.range_succ, List.map_append]
    simp [run, step]

theorem memoryInUse_rush (v : Verifier) (stored : Option String) :
    ((idle v).run (rush stored v.slots)).memoryInUse = v.slots * v.demand stored := by
  have hsum : ∀ l : List Nat, (l.map (·, v.demand stored)).foldr (fun r n => r.2 + n) 0 =
      l.length * v.demand stored := by
    intro l
    induction l with
    | nil => simp
    | cons caller l ih =>
      rw [List.map_cons, List.foldr_cons, ih, List.length_cons, Nat.succ_mul, Nat.add_comm]
  rw [run_rush v stored (Nat.le_refl _)]
  unfold memoryInUse
  rw [hsum, List.length_range]

theorem asksFor_rush (count : Nat) {stored : Option String} (h : allowed stored) :
    AsksFor allowed (rush stored count) := by
  intro caller stored' hmem
  unfold rush at hmem
  simp only [List.mem_flatMap, List.mem_cons, List.not_mem_nil, or_false, reduceCtorEq,
    SlotEvent.request.injEq] at hmem
  obtain ⟨caller', -, -, rfl⟩ := hmem
  exact h

/-! ## The promise of the settings -/

/-- At most as many verifications run as the settings allow, whoever asks for one or gives up and
when. Together they keep to the memory that the settings promise exactly as long as no hash that is
verified against asks for more than the settings do. A missing hash does not, and neither does one
that was issued with these settings. -/
theorem memory_exact {c : Settings} {v : Verifier} (h : Verifier.ofSettings c = .ok v)
    (hc : c.IsWritable) :
    (∀ events, ((idle v).run events).running.length ≤ c.maxConcurrent) ∧
    (∀ allowed : Option String → Prop,
      (∀ events, AsksFor allowed events →
        ((idle v).run events).memoryInUse ≤ c.maxConcurrent * c.memoryKib) ↔
      ∀ stored, allowed stored → v.demand stored ≤ c.memoryKib) ∧
    v.demand none = c.memoryKib ∧
    ∀ salt secret, salt.length = saltSize →
      v.demand (some (v.issue salt secret)) = c.memoryKib := by
  have hissues := Verifier.issues_of_ofSettings h hc
  obtain ⟨hv, -, hslots⟩ := Verifier.ofSettings_eq_ok h
  have hcount : c.maxConcurrent = v.slots := by rw [hv]
  have hmemory : c.memoryKib = v.cost.memory := by rw [hv]
  rw [hcount, hmemory]
  refine ⟨length_running_le v, fun allowed => ⟨?_, ?_⟩, rfl, ?_⟩
  · intro hbound stored hstored
    -- Every slot can be taken for the same hash at once.
    have hrush := hbound _ (asksFor_rush v.slots hstored)
    rw [memoryInUse_rush] at hrush
    exact Nat.le_of_mul_le_mul_left hrush hslots
  · intro hdemand events hasks
    have hidle : (idle v).Serves v allowed := ⟨rfl, by simp [idle], by simp [idle], by simp [idle]⟩
    have hserves := hidle.run hasks
    refine (memoryInUse_le fun r hr => ?_).trans
      (Nat.mul_le_mul_right v.cost.memory (length_running_le v events))
    obtain ⟨stored, hstored, hr⟩ := hserves.running r hr
    rw [hr]
    exact hdemand stored hstored
  · intro salt secret hsize
    exact demand_of_recipe (Verifier.recipe_issue hissues (bounds_of_saltSize hsize) secret)

/-- Two slots for verifications of the least cost, and hashes that were issued with it. -/
theorem memory_exact_two :
    let c : Settings := ⟨8, 1, 1, 2⟩
    let v : Verifier := ⟨⟨8, 1, 1⟩, 2⟩
    Verifier.ofSettings c = .ok v ∧ c.IsWritable ∧
      ∀ events, AsksFor (fun stored => stored = none) events →
        ((idle v).run events).memoryInUse ≤ 16 := by
  intro c v
  have hof : Verifier.ofSettings c = .ok v := rfl
  have hc : c.IsWritable := ⟨by decide, by decide, by decide⟩
  obtain ⟨-, hbound, hnone, -⟩ := memory_exact hof hc
  refine ⟨hof, hc, (hbound _).mpr ?_⟩
  rintro stored rfl
  exact Nat.le_of_eq hnone

/-- One slot for a verification of the least cost: while a hash that was issued at a greater cost is
verified against, the one verification that runs takes more than the settings promise. -/
theorem memory_exceeded :
    let c : Settings := ⟨8, 1, 1, 1⟩
    let v : Verifier := ⟨⟨8, 1, 1⟩, 1⟩
    let stored := "$argon2id$v=19$m=1024,t=1,p=1$c29tZXNhbHRzb21lc2FsdA$" ++
      "irXvvnEI7RbbpO8Fn0zeobB/XjodgRU2YXist62vZ2I"
    Verifier.ofSettings c = .ok v ∧
      ¬((idle v).run [.request 0 (some stored), .grant 0, .start 0]).memoryInUse ≤
        c.maxConcurrent * c.memoryKib := by
  intro c v stored
  have hdemand : v.demand (some stored) = 1024 := by decide +kernel
  have hrush : [.request 0 (some stored), .grant 0, .start 0] = rush (some stored) v.slots := rfl
  refine ⟨rfl, ?_⟩
  rw [hrush, memoryInUse_rush, hdemand]
  decide

end Slots

end Gatehouse.Secret
