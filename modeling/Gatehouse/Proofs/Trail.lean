import Gatehouse.Proofs.Admission
import Gatehouse.Proofs.Endings

/-!
# The audit trail

What a run leaves in the audit trail, by its result alone: the attachment of a caller that is let in
and then its success, the one failure of a caller that is not, and nothing for nobody. However a run
is answered and however long it takes, at most one thing is attached (`isNone_of_attach`) and the
caller has the kind of credential that was presented (`kind_of_authenticate`).
-/

namespace Gatehouse

namespace Stage

variable {α β : Type}

/-- Some answers have a stage yield a value. -/
def MayYield (s : Stage α) (a : α) : Prop := s.run.MayEnd (.ok a)

theorem mayYield_pure {a b : α} : (pure a : Stage α).MayYield b ↔ a = b := by
  change Except.ok a = Except.ok b ↔ a = b
  rw [Except.ok.injEq]

theorem not_mayYield_refuse {f : Failure} {a : α} : ¬ (refuse f : Stage α).MayYield a := by
  rintro ⟨⟩

theorem mayYield_bind {s : Stage α} {f : α → Stage β} {b : β} :
    (s >>= f).MayYield b ↔ ∃ a, s.MayYield a ∧ (f a).MayYield b := by
  unfold MayYield
  rw [ExceptT.run_bind, Dialogue.bind_eq, Dialogue.mayEnd_bind]
  constructor
  · rintro ⟨r, hr, hb⟩
    cases r with
    | ok a => exact ⟨a, hr, hb⟩
    | error r => cases hb
  · rintro ⟨a, ha, hb⟩
    exact ⟨.ok a, ha, hb⟩

theorem mayYield_map {s : Stage α} {g : α → β} {b : β} :
    (g <$> s).MayYield b ↔ ∃ a, s.MayYield a ∧ g a = b := by
  rw [(bind_pure_comp g s).symm, mayYield_bind]
  simp only [mayYield_pure]

theorem mayYield_ofExcept {x : Except Failure α} {a : α} :
    (ofExcept x).MayYield a ↔ x = .ok a := by
  cases x with
  | ok b => exact mayYield_pure.trans (by rw [Except.ok.injEq])
  | error f => simp [ofExcept, not_mayYield_refuse]

end Stage

namespace Authentication

theorem credential_of_byToken {token : String} {caller : Principal}
    (h : (byToken token).MayYield caller) : caller.credential = .bearerToken := by
  unfold byToken at h
  simp only [Stage.mayYield_bind, Stage.mayYield_ofExcept] at h
  obtain ⟨validated, -, claims, -, hcaller⟩ := h
  exact (principalOf_eq_ok.mp hcaller).2.2.2

theorem credential_of_byClient {id secret : String} {caller : Principal}
    (h : (byClient id secret).MayYield caller) : caller.credential = .clientCredentials := by
  unfold byClient at h
  simp only [Stage.mayYield_bind, Stage.mayYield_pure] at h
  obtain ⟨record, -, owner, -, rfl⟩ := h
  rfl

end Authentication

namespace Admission

open Authorization

variable {policy : Policy} {request : Request}

/-- A caller has the kind of credential that it presents. -/
theorem kind_of_authenticate {credential : Credential} {bootstrap : Bool} {caller : Principal}
    (h : (authenticate credential bootstrap).MayYield (some caller)) :
    credential.kind? = some caller.credential := by
  unfold authenticate at h
  cases credential with
  | bearer token =>
    obtain ⟨_, htoken, ⟨⟩⟩ := Stage.mayYield_map.mp h
    rw [Authentication.credential_of_byToken htoken]
    rfl
  | client id secret =>
    obtain ⟨_, hclient, ⟨⟩⟩ := Stage.mayYield_map.mp h
    rw [Authentication.credential_of_byClient hclient]
    rfl
  | absent =>
    cases bootstrap with
    | true => cases Stage.mayYield_pure.mp h
    | false => exact absurd h Stage.not_mayYield_refuse

/-- At most one thing is attached. -/
theorem isNone_of_attach {identity : Identity} {headers : Http.Headers}
    {attached : Option DelegationContext × Option ProviderScope}
    (h : (attach policy identity headers).MayYield attached) :
    attached.1 = none ∨ attached.2 = none := by
  unfold attach at h
  dsimp only at h
  split at h
  · obtain ⟨_, hrefused, -⟩ := Stage.mayYield_bind.mp h
    exact absurd hrefused Stage.not_mayYield_refuse
  · simp only [Stage.mayYield_bind] at h
    obtain ⟨_, -, delegation, -, h⟩ := h
    cases delegation with
    | some d =>
      rw [← Stage.mayYield_pure.mp h]
      exact Or.inr rfl
    | none =>
      simp only [Stage.mayYield_bind, Stage.mayYield_pure] at h
      obtain ⟨_, -, scope, -, rfl⟩ := h
      exact Or.inl rfl

/-- Whoever is let in has the kind of credential that was presented, and at most one thing is
attached. -/
theorem context_of_identify {credential : Credential} {c : IdentityContext}
    (h : (identify policy request credential).MayYield (some c)) :
    credential.kind? = some c.credential ∧ (c.delegation = none ∨ c.providerScope = none) := by
  unfold identify at h
  obtain ⟨found, hfound, h⟩ := Stage.mayYield_bind.mp h
  cases found with
  | none => cases Stage.mayYield_pure.mp h
  | some caller =>
    obtain ⟨_, h, ⟨⟩⟩ := Stage.mayYield_map.mp h
    unfold authorize at h
    simp only [Stage.mayYield_bind, Stage.mayYield_pure] at h
    obtain ⟨identity, -, attached, hattached, rfl⟩ := h
    exact ⟨kind_of_authenticate hfound, isNone_of_attach hattached⟩

/-- A run ends with the verdict on an outcome of its stages. -/
theorem verdict_of_run {v : Verdict} (h : (run policy request).MayEnd v) :
    ∃ outcome, (identify policy request (.ofHeaders request.headers)).run.MayEnd outcome ∧
      v = verdictOf (.ofHeaders request.headers) request.path outcome := by
  rw [run_eq, Dialogue.mayEnd_bind] at h
  obtain ⟨outcome, houtcome, hv⟩ := h
  exact ⟨outcome, houtcome, hv.symm⟩

/-- However a request is answered, through whatever surroundings its run goes and however long it
takes: what the run has recorded at its end is told by its result. A caller that is let in is
recorded once, after the one thing that was attached if there was any; a failure is recorded once,
and nothing else with it; nobody leaves no record. The terminal record has the fingerprint of the
token that was presented, if there was one. A run that is waited for has an end unless somebody
breaks down. -/
theorem trail_exact (policy : Policy) (request : Request) (now : Nat) :
    (∀ s : Surroundings, (∀ c, (s.answer c).isSome = true) → ∃ time v,
      (Run.proceed s (fun _ => true) now (run policy request)).1 = .ended time v) ∧
    ∀ (stretches : List (Surroundings × (Nat → Bool))) (time : Nat) (v : Verdict),
      Run.followAll stretches (.ready now (run policy request)) = .ended time v →
      let credential := Credential.ofHeaders request.headers
      let mark : Option String := match credential with
        | .bearer token => some (fingerprint token)
        | _ => none
      match v.result with
      | .ok none => v.audit = []
      | .error f => v.audit = [{
          kind := .failed
          path := some request.path
          credential := credential.kind?
          fingerprint := mark
          code := some f.code
          reason := some f.message }]
      | .ok (some c) =>
        let success : AuditEvent := {
          kind := .succeeded
          path := some request.path
          user := some c.identity.user
          credential := some c.credential
          fingerprint := mark
          roles := some (Role.all.filter c.identity.hasRole) }
        credential.kind? = some c.credential ∧
        match c.delegation, c.providerScope with
        | none, none => v.audit = [success]
        | some d, none => v.audit = [{
            kind := .delegationAttached
            user := some c.identity.user
            roles := some [d.role]
            delegation := some d.id
            onBehalfOf := some d.delegator }, success]
        | none, some s => v.audit = [{
            kind := .providerScopeAttached
            user := some c.identity.user
            onBehalfOf := some s.provider }, success]
        | some _, some _ => False := by
  refine ⟨fun s hsound => Run.ends_of_sound hsound now _, fun stretches time v hend => ?_⟩
  intro credential mark
  have hmay : (Run.followAll stretches (.ready now (run policy request))).MayEnd v := by
    rw [hend]
    exact rfl
  obtain ⟨outcome, houtcome, rfl⟩ := verdict_of_run (Run.mayEnd_of_followAll hmay)
  cases outcome with
  | error r => rfl
  | ok found =>
    cases found with
    | none => rfl
    | some c =>
      obtain ⟨hkind, hone⟩ := context_of_identify houtcome
      obtain ⟨identity, kind, delegation, scope⟩ := c
      refine ⟨hkind, ?_⟩
      cases delegation with
      | none =>
        cases scope with
        | none => rfl
        | some s => rfl
      | some d =>
        cases scope with
        | none => rfl
        | some s => rcases hone with ⟨⟨⟩⟩ | ⟨⟨⟩⟩

/-- The run of a delegate records the delegation and then its success, with the mark of its
token. -/
theorem trail_exact_delegate : ∃ time v identity,
    Run.followAll [(lendingPlatform.surroundings, fun _ => true)]
      (.ready 0 (run lendingPlatform.policy delegateRequest)) = .ended time v ∧
    v.result = .ok (some ⟨identity, .bearerToken,
      some ⟨⟨1⟩, ⟨5⟩, .provider, "https://AS.example/"⟩, none⟩) ∧
    v.audit = [
      { kind := .delegationAttached, user := some identity.user, roles := some [.provider],
        delegation := some ⟨1⟩, onBehalfOf := some ⟨5⟩ },
      { kind := .succeeded, path := some "/", user := some identity.user,
        credential := some .bearerToken, fingerprint := some (fingerprint "token"),
        roles := some (Role.all.filter identity.hasRole) }] := by
  obtain ⟨identity, hres⟩ := result_lendingWith .provider "https://AS.example/"
  obtain ⟨time, hrun⟩ := lendingPlatform.proceed_eq 0 (run lendingPlatform.policy delegateRequest)
  have hend : Run.followAll [(lendingPlatform.surroundings, fun _ => true)]
      (.ready 0 (run lendingPlatform.policy delegateRequest)) =
        .ended time (lendingPlatform.verdict delegateRequest) := by
    simp only [Run.followAll, List.foldl_cons, List.foldl_nil, Run.follow, ↓reduceIte, hrun]
    rfl
  have hcredential : Credential.ofHeaders delegateRequest.headers = .bearer "token" := by cbv
  have htrail := (trail_exact _ _ _).2 _ _ _ hend
  have hresult : (lendingPlatform.verdict delegateRequest).result = _ := hres
  rw [hcredential, hresult] at htrail
  exact ⟨time, _, identity, hend, hresult, htrail.2⟩

end Admission

end Gatehouse
