import Gatehouse.Proofs.Admission

/-!
# Requests whose calls fail

A call fails when it is answered with a fault, or not within its bound. The computations of this
library fail closed: whatever the fault is, the request ends there and then with a failure that says
on whose side it is (`EndsOnFault`). A run in which some calls fail is therefore the run in which
they do not, as far as the first of them (`EndsOnFault.proceed`), and no context ever comes of a
failed call (`fails_closed`).
-/

namespace Gatehouse

open Store

/-! ## Faults -/

/-- What may keep a call from succeeding. -/
abbrev Call.Fault : Call → Type
  | .provider _ => ProviderFault
  | .store _ => StoreFault

/-- The answer to a call that has failed. -/
def Call.failed : (c : Call) → c.Fault → c.Answer
  | .provider _, fault => (.error fault : Except ProviderFault _)
  | .store _, fault => (.error fault : Except StoreFault _)

/-- A fault of the identity provider is held against the token, one of storage against the
server. -/
def Call.Blames : Call → Failure → Prop
  | .provider _, f => ∃ reason, f = .invalidToken reason
  | .store _, f => ∃ reason, f = .internal reason

/-- The status of the response to a request for which a call failed. -/
def Call.faultStatus : Call → Nat
  | .provider _ => 401
  | .store _ => 500

theorem Call.Blames.status {c : Call} {f : Failure} (h : c.Blames f) : f.status = c.faultStatus := by
  cases c with
  | provider call =>
    obtain ⟨reason, rfl⟩ := h
    rfl
  | store call =>
    obtain ⟨reason, rfl⟩ := h
    rfl

/-- Being late is one way to fail. -/
theorem late_eq_failed (c : Call) : ∃ fault, c.late = c.failed fault := by
  cases c with
  | provider call => exact ⟨.timedOut, rfl⟩
  | store call => exact ⟨.timedOut, rfl⟩

/-- In some surroundings the calls that are struck fail, each in any way at all, and the others are
answered as on a platform. -/
structure Platform.Disturbed (p : Platform) (struck : Call → Bool) (s : Surroundings) : Prop where
  fails : ∀ c, struck c = true →
    s.isLate c = true ∨ ∃ fault, s.answer c = some (c.failed fault)
  spared : ∀ c, struck c = false → s.outcome c (s.isLate c) = some (p.answer c)

variable {p : Platform} {struck : Call → Bool} {s : Surroundings}

theorem Platform.Disturbed.outcome_struck (h : p.Disturbed struck s) {c : Call}
    (hc : struck c = true) : ∃ fault, s.outcome c (s.isLate c) = some (c.failed fault) := by
  unfold Surroundings.outcome
  cases hlate : s.isLate c with
  | true =>
    obtain ⟨fault, hfault⟩ := late_eq_failed c
    exact ⟨fault, congrArg some hfault⟩
  | false =>
    rcases h.fails c hc with htrue | hanswer
    · rw [hlate] at htrue
      cases htrue
    · exact hanswer

/-! ## Failing closed -/

variable {α β : Type}

/-- A computation ends as soon as a call fails, with a result that `P` allows for the call. -/
def EndsOnFault (P : Call → α → Prop) : Exchange α → Prop
  | .done _ => True
  | .ask c next =>
    (∀ fault, ∃ a, P c a ∧ next (c.failed fault) = .done a) ∧ ∀ x, EndsOnFault P (next x)

/-- Going on with a computation that fails closed does too, if it ends at once after a failure. -/
theorem EndsOnFault.bind {P : Call → α → Prop} {Q : Call → β → Prop} {d : Exchange α}
    {g : α → Exchange β} (hd : EndsOnFault P d)
    (hfail : ∀ c a, P c a → ∃ b, Q c b ∧ g a = .done b) (hg : ∀ a, EndsOnFault Q (g a)) :
    EndsOnFault Q (d.bind g) := by
  induction d with
  | done a => exact hg a
  | ask c next ih =>
    obtain ⟨hfault, hnext⟩ := hd
    refine ⟨fun fault => ?_, fun x => ih x (hnext x)⟩
    obtain ⟨a, ha, hdone⟩ := hfault fault
    obtain ⟨b, hb, hend⟩ := hfail c a ha
    refine ⟨b, hb, ?_⟩
    dsimp only
    rw [hdone, Dialogue.done_bind, hend]

/-- The elements of a list up to the first one that satisfies a condition, which is included. -/
def upToFirst (stop : α → Bool) : List α → List α
  | [] => []
  | a :: l => if stop a then [a] else a :: upToFirst stop l

/-- A run that fails closed is the run without faults up to the first call that is struck, and ends
there; if no call on its way is struck, nothing has changed. -/
theorem EndsOnFault.proceed {P : Call → α → Prop} {d : Exchange α} (hd : EndsOnFault P d)
    (hs : p.Disturbed struck s) (now : Nat) :
    ∃ time a, Run.proceed s (fun _ => true) now d =
        (.ended time a, upToFirst struck (d.asked p.answer)) ∧
      match (d.asked p.answer).find? struck with
      | none => a = d.answered p.answer
      | some c => P c a := by
  induction d generalizing now with
  | done a => exact ⟨now, a, rfl, rfl⟩
  | ask c next ih =>
    obtain ⟨hfault, hnext⟩ := hd
    cases hc : struck c with
    | true =>
      obtain ⟨fault, hout⟩ := hs.outcome_struck hc
      obtain ⟨a, ha, hdone⟩ := hfault fault
      refine ⟨now + s.wait c, a, ?_, ?_⟩
      · simp only [Run.proceed, ↓reduceIte, hout, hdone, Dialogue.asked, upToFirst, hc]
      · rw [Dialogue.asked, List.find?_cons, hc]
        exact ha
    | false =>
      have hout := hs.spared c hc
      obtain ⟨time, a, hrun, hend⟩ := ih (p.answer c) (hnext _) (now + s.wait c)
      refine ⟨time, a, ?_, ?_⟩
      · simp only [Run.proceed, ↓reduceIte, hout, hrun, Dialogue.asked, upToFirst, hc,
          Bool.false_eq_true]
      · rw [Dialogue.asked, List.find?_cons, hc]
        exact hend

/-! ## Stages -/

namespace Stage

/-- A stage refuses the request for the sake of a call, and says nothing about hashes. -/
def Blamed (c : Call) (r : Except Refusal α) : Prop := ∃ f, c.Blames f ∧ r = .error ⟨f, none⟩

/-- A stage refuses the request as soon as a call of its fails. -/
abbrev FailsClosed (s : Stage α) : Prop := EndsOnFault Blamed s.run

theorem failsClosed_pure (a : α) : FailsClosed (pure a : Stage α) := trivial

theorem failsClosed_refuse (f : Failure) : FailsClosed (refuse f : Stage α) := trivial

theorem failsClosed_liftExcept (x : Except Refusal α) : FailsClosed (liftM x : Stage α) := trivial

theorem failsClosed_ofExcept (x : Except Failure α) : FailsClosed (ofExcept x) := by
  cases x with
  | ok a => exact failsClosed_pure a
  | error f => exact failsClosed_refuse f

theorem failsClosed_ofProvider {c : ProviderCall} {failure : ProviderFault → Failure}
    (h : ∀ fault, ∃ reason, failure fault = .invalidToken reason) :
    FailsClosed (ofProvider c failure) :=
  ⟨fun fault => ⟨_, ⟨failure fault, h fault, rfl⟩, rfl⟩, fun _ => trivial⟩

theorem failsClosed_ofStore (c : StoreCall) : FailsClosed (ofStore c) :=
  ⟨fun fault => ⟨_, ⟨.internal fault.message, ⟨_, rfl⟩, rfl⟩, rfl⟩, fun _ => trivial⟩

theorem failsClosed_bind {s : Stage α} {f : α → Stage β} (hs : FailsClosed s)
    (hf : ∀ a, FailsClosed (f a)) : FailsClosed (s >>= f) := by
  refine EndsOnFault.bind hs ?_ fun r => ?_
  · rintro c _ ⟨failure, hblames, rfl⟩
    exact ⟨.error ⟨failure, none⟩, ⟨failure, hblames, rfl⟩, rfl⟩
  · cases r with
    | ok a => exact hf a
    | error r => trivial

theorem failsClosed_map {s : Stage α} (g : α → β) (hs : FailsClosed s) :
    FailsClosed (g <$> s) := by
  have h : g <$> s = s >>= fun a => pure (g a) := (bind_pure_comp g s).symm
  rw [h]
  exact failsClosed_bind hs fun a => failsClosed_pure (g a)

/-- A stage that goes on unless a condition holds. -/
theorem failsClosed_unless {b : Bool} {f : Failure} {s : PUnit → Stage α}
    (hs : FailsClosed (s ⟨⟩)) : FailsClosed (if b then refuse f >>= s else s ⟨⟩) := by
  cases b with
  | false => exact hs
  | true => exact failsClosed_bind (failsClosed_refuse f) fun _ => hs

/-- A header is followed to its end, so that a call that fails on the way has the last word. -/
theorem failsClosed_follow {value : Option (List UInt8)} {stage : List UInt8 → Stage α}
    {f : Option α → Stage β} (hstage : ∀ value, FailsClosed (stage value))
    (hf : ∀ a, FailsClosed (f a)) :
    FailsClosed (do f (← ofExcept (← Authorization.whenPresent value stage).toExcept)) := by
  cases value with
  | none => exact failsClosed_bind trivial fun o => failsClosed_bind (failsClosed_ofExcept _) hf
  | some value =>
    -- The outcome passes through the header's own result before it counts as a refusal again.
    have hpresent : EndsOnFault (fun c o => ∃ failure, c.Blames failure ∧
        o = StageOutcome.failed failure) (Authorization.whenPresent (some value) stage) := by
      refine EndsOnFault.bind (hstage value) ?_ fun r => ?_
      · rintro c _ ⟨failure, hblames, rfl⟩
        exact ⟨.failed failure, ⟨failure, hblames, rfl⟩, rfl⟩
      · cases r with
        | ok a => trivial
        | error r => trivial
    have hlift : EndsOnFault (fun c r => ∃ failure, c.Blames failure ∧
        r = Except.ok (StageOutcome.failed failure))
        (liftM (Authorization.whenPresent (some value) stage) :
          Stage (StageOutcome α)).run := by
      refine EndsOnFault.bind hpresent ?_ fun o => trivial
      rintro c _ ⟨failure, hblames, rfl⟩
      exact ⟨_, ⟨failure, hblames, rfl⟩, rfl⟩
    refine EndsOnFault.bind hlift ?_ fun r => ?_
    · rintro c _ ⟨failure, hblames, rfl⟩
      exact ⟨.error ⟨failure, none⟩, ⟨failure, hblames, rfl⟩, rfl⟩
    · cases r with
      | ok o => exact failsClosed_bind (failsClosed_ofExcept _) hf
      | error r => trivial

end Stage

/-! ## The stages of a request -/

open Stage

namespace Authentication

theorem failsClosed_byToken (token : String) : FailsClosed (byToken token) :=
  failsClosed_bind (failsClosed_ofProvider fun _ => ⟨_, rfl⟩) fun _ =>
    failsClosed_bind (failsClosed_ofProvider fun _ => ⟨_, rfl⟩) fun _ =>
      failsClosed_ofExcept _

theorem failsClosed_clientRecord (id : String) : FailsClosed (clientRecord id) := by
  unfold clientRecord
  split
  · exact failsClosed_ofStore _
  · exact failsClosed_pure _

theorem failsClosed_byClient (id secret : String) : FailsClosed (byClient id secret) :=
  failsClosed_bind (failsClosed_clientRecord id) fun _ =>
    failsClosed_bind (failsClosed_liftExcept _) fun _ => failsClosed_pure _

end Authentication

namespace Authorization

theorem failsClosed_resolveRoles (policy : Policy) (principal : Principal) (requested : RoleSet) :
    FailsClosed (resolveRoles policy principal requested) := by
  unfold resolveRoles
  split
  · exact failsClosed_bind (failsClosed_ofStore _) fun _ => failsClosed_pure _
  · exact failsClosed_pure _

theorem failsClosed_attachDelegation (identity : Identity) (value : List UInt8) :
    FailsClosed (attachDelegation identity value) := by
  unfold attachDelegation
  refine failsClosed_unless ?_
  refine failsClosed_bind (failsClosed_ofExcept _) fun id =>
    failsClosed_bind (failsClosed_ofStore (.grant id identity.user)) fun found => ?_
  cases found with
  | none => exact failsClosed_refuse _
  | some g => exact failsClosed_pure _

theorem failsClosed_attachProvider (policy : Policy) (identity : Identity) (value : List UInt8) :
    FailsClosed (attachProvider policy identity value) := by
  refine failsClosed_bind (failsClosed_ofExcept _) fun id =>
    failsClosed_bind (failsClosed_ofStore (.providerGrant identity.user id policy.trustDomain))
      fun found => ?_
  cases found with
  | none => exact failsClosed_refuse _
  | some g => exact failsClosed_pure _

end Authorization

namespace Admission

open Authorization

theorem failsClosed_authenticate (credential : Credential) (bootstrap : Bool) :
    FailsClosed (authenticate credential bootstrap) := by
  unfold authenticate
  cases credential with
  | bearer token => exact failsClosed_map _ (Authentication.failsClosed_byToken token)
  | client id secret => exact failsClosed_map _ (Authentication.failsClosed_byClient id secret)
  | absent =>
    cases bootstrap with
    | true => exact failsClosed_pure _
    | false => exact failsClosed_refuse _

theorem failsClosed_attach (policy : Policy) (identity : Identity) (headers : Http.Headers) :
    FailsClosed (attach policy identity headers) := by
  unfold attach
  refine failsClosed_unless ?_
  refine failsClosed_follow (failsClosed_attachDelegation identity) fun delegation => ?_
  cases delegation with
  | some d => exact failsClosed_pure _
  | none =>
    exact failsClosed_follow (failsClosed_attachProvider policy identity) fun scope =>
      failsClosed_pure _

theorem failsClosed_identify (policy : Policy) (request : Request) (credential : Credential) :
    FailsClosed (identify policy request credential) := by
  refine failsClosed_bind (failsClosed_authenticate credential request.bootstrap) fun found => ?_
  cases found with
  | none => exact failsClosed_pure _
  | some principal =>
    exact failsClosed_map _ <| failsClosed_bind (failsClosed_resolveRoles ..) fun identity =>
      failsClosed_bind (failsClosed_attach ..) fun attached => failsClosed_pure _

/-! ## Requests -/

/-- The verdict on a request for which a call failed. -/
def IsFaultVerdict (request : Request) (c : Call) (v : Verdict) : Prop :=
  ∃ f, c.Blames f ∧ f.status = c.faultStatus ∧
    v = verdictOf (.ofHeaders request.headers) request.path (.error ⟨f, none⟩)

theorem endsOnFault_run (policy : Policy) (request : Request) :
    EndsOnFault (IsFaultVerdict request) (run policy request) := by
  rw [run_eq]
  refine EndsOnFault.bind (failsClosed_identify policy request _) ?_ fun _ => trivial
  rintro c _ ⟨f, hblames, rfl⟩
  exact ⟨_, ⟨f, hblames, hblames.status, rfl⟩, rfl⟩

/-- Whatever calls fail and in whatever way: a request ends as it would without them if none of
them is reached, and otherwise with the first one that is, as a failure of the token when it was the
identity provider's and of the server when it was storage's. No call is made after that, and whoever
is let in all the same is the one who would have been let in. -/
theorem fails_closed (p : Platform) (struck : Call → Bool) (s : Surroundings) (request : Request)
    (now : Nat) (hs : p.Disturbed struck s) :
    ∃ time verdict,
      Run.proceed s (fun _ => true) now (run p.policy request) =
        (.ended time verdict, upToFirst struck (p.calls request)) ∧
      (match (p.calls request).find? struck with
      | none => verdict = p.verdict request
      | some c => IsFaultVerdict request c verdict) ∧
      ∀ context, verdict.result = .ok context → p.result request = .ok context := by
  obtain ⟨time, verdict, hrun, hend⟩ := (endsOnFault_run p.policy request).proceed hs now
  refine ⟨time, verdict, hrun, hend, fun context hcontext => ?_⟩
  change match (p.calls request).find? struck with
    | none => verdict = p.verdict request
    | some c => IsFaultVerdict request c verdict at hend
  cases hfirst : (p.calls request).find? struck with
  | none =>
    rw [hfirst] at hend
    rwa [hend] at hcontext
  | some c =>
    rw [hfirst] at hend
    obtain ⟨f, -, -, rfl⟩ := hend
    cases hcontext

/-- Whether a call looks a delegation up. -/
def isGrantLookup : Call → Bool
  | .store (.grant _ _) => true
  | _ => false

/-- A store that has slowed down when a delegation is looked up. -/
def stalledLookups : Surroundings where
  delay c := if isGrantLookup c then 1001 else 0
  limit := lendingPlatform.surroundings.limit
  answer := lendingPlatform.surroundings.answer

/-- The delegate of a request whose lookup is late is not let in without the delegation. -/
theorem fails_closed_stalled :
    lendingPlatform.Disturbed isGrantLookup stalledLookups ∧
    ∃ time verdict,
      (Run.proceed stalledLookups (fun _ => true) 0
        (run lendingPlatform.policy delegateRequest)).1 = .ended time verdict ∧
      IsFaultVerdict delegateRequest (.store (.grant ⟨1⟩ ⟨7⟩)) verdict := by
  have hdelay : ∀ c, stalledLookups.delay c = if isGrantLookup c then 1001 else 0 := fun c => rfl
  have hs : lendingPlatform.Disturbed isGrantLookup stalledLookups := by
    constructor
    · intro c hc
      left
      unfold Surroundings.isLate
      rw [hdelay, hc]
      cases c with
      | provider call => cases hc
      | store call => rfl
    · intro c hc
      have hlate : stalledLookups.isLate c = false := by
        unfold Surroundings.isLate
        rw [hdelay, hc]
        exact decide_eq_false (Nat.not_lt_zero _)
      have hnever : lendingPlatform.surroundings.isLate c = false := by
        cases c with
        | provider call => rfl
        | store call => rfl
      rw [← lendingPlatform.outcome_eq c, hlate, hnever]
      rfl
  have hfirst : (lendingPlatform.calls delegateRequest).find? isGrantLookup =
      some (.store (.grant ⟨1⟩ ⟨7⟩)) := by decide +kernel
  obtain ⟨time, verdict, hrun, hend, -⟩ := fails_closed _ _ _ delegateRequest 0 hs
  rw [hfirst] at hend
  exact ⟨hs, time, verdict, by rw [hrun], hend⟩

end Admission

end Gatehouse
