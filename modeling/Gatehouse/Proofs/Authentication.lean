import Gatehouse.Proofs.Roles

/-!
# Who a caller is

A caller is who its credential shows it to be (`Platform.Shows`): the identity provider vouches for
the subject of a token (`byToken_eq_ok`), or the store has a hash that the secret matches
(`byClient_eq_ok`). Only the one or the other is asked (`mem_calls_byToken`, `mem_calls_byClient`),
and the refusals are those of the kind of credential.
-/

namespace Gatehouse

/-- Who the caller of a request was found to be. -/
def IdentityContext.principal (c : IdentityContext) : Principal :=
  ⟨c.identity.user, c.identity.displayName, c.credential⟩

namespace Platform

/-- The identity provider validates a token and describes the same subject, who is the caller. -/
def Vouches (p : Platform) (token : String) (caller : Principal) : Prop :=
  ∃ (validated : ValidatedToken) (claims : SubjectClaims),
    p.Provides (.validate token) validated ∧ p.Provides (.claims validated) claims ∧
      claims.subject = validated.subject ∧ Uuid.parse? validated.subject = some caller.user ∧
      caller.displayName = some ⟨claims.givenName, claims.familyName⟩ ∧
      caller.credential = .bearerToken

/-- The store holds a credential under a client id. -/
def Knows (p : Platform) (id : String) (c : ClientCredential) : Prop :=
  c ∈ p.memory.clients ∧ Uuid.parse? id = some c.client

/-- The secret matches the hash under a client id, and the caller is the owner. -/
def Matches (p : Platform) (id secret : String) (caller : Principal) : Prop :=
  ∃ c, p.Knows id c ∧ (Secret.verify secret c.secretHash).1 = true ∧
    caller.user = c.owner ∧ caller.displayName = none ∧ caller.credential = .clientCredentials

/-- A credential shows who the caller is. -/
def Shows (p : Platform) : Credential → Principal → Prop
  | .bearer token, caller => p.Vouches token caller
  | .client id secret, caller => p.Matches id secret caller
  | .absent, _ => False

end Platform

/-- The failures of a bearer token that is not accepted. -/
def Failure.OfToken (f : Failure) : Prop :=
  (∃ reason, f = .invalidToken reason) ∨ ∃ subject, f = .unknownPrincipal subject

/-- Calls that handling a request with a credential may make: no client is looked up for a token,
and the identity provider is not asked about a client. -/
def Credential.MayAsk : Credential → Call → Prop
  | .bearer _, c => ∀ id, c ≠ .store (.client id)
  | .client _ _, c => ∀ call, c ≠ .provider call
  | .absent, _ => False

namespace Authentication

variable {p : Platform} {caller : Principal} {answer : (c : Call) → c.Answer} {c : Call}

/-! ## Bearer tokens -/

theorem principalOf_eq_ok {validated : ValidatedToken} {claims : SubjectClaims} :
    principalOf validated claims = .ok caller ↔
      claims.subject = validated.subject ∧ Uuid.parse? validated.subject = some caller.user ∧
        caller.displayName = some ⟨claims.givenName, claims.familyName⟩ ∧
        caller.credential = .bearerToken := by
  obtain ⟨user, name, kind⟩ := caller
  unfold principalOf
  by_cases h : claims.subject = validated.subject
  · rw [if_neg (not_not_intro h)]
    cases hu : Uuid.parse? validated.subject with
    | none => simp
    | some id => simp [h, eq_comm]
  · rw [if_pos h]
    simp [h]

/-- A token is good for the caller whom the provider vouches for. -/
theorem byToken_eq_ok {token : String} :
    Stage.outcome p.answer (byToken token) = .ok caller ↔ p.Vouches token caller := by
  unfold byToken Platform.Vouches
  simp only [Stage.outcome_bind, bind_eq_ok, Stage.outcome_ofExcept, mapError_eq_ok]
  constructor
  · rintro ⟨validated, hv, claims, hc, h⟩
    exact ⟨validated, claims, Platform.outcome_ofProvider_eq_ok.mp hv,
      Platform.outcome_ofProvider_eq_ok.mp hc, principalOf_eq_ok.mp h⟩
  · rintro ⟨validated, claims, hv, hc, h⟩
    exact ⟨validated, Platform.outcome_ofProvider_eq_ok.mpr hv, claims,
      Platform.outcome_ofProvider_eq_ok.mpr hc, principalOf_eq_ok.mpr h⟩

theorem principalOf_error {validated : ValidatedToken} {claims : SubjectClaims} {f : Failure}
    (h : principalOf validated claims = .error f) : f.OfToken := by
  unfold principalOf at h
  split at h
  · cases h
    exact Or.inl ⟨_, rfl⟩
  · split at h
    · cases h
      exact Or.inr ⟨_, rfl⟩
    · cases h

theorem byToken_error {token : String} {r : Refusal}
    (h : Stage.outcome answer (byToken token) = .error r) : r.failure.OfToken := by
  unfold byToken at h
  simp only [Stage.outcome_bind, bind_eq_error, Stage.outcome_ofExcept, mapError_eq_error] at h
  rcases h with hv | ⟨validated, -, hc | ⟨claims, -, f, hf, rfl⟩⟩
  · obtain ⟨fault, -, rfl⟩ := mapError_eq_error.mp hv
    exact Or.inl ⟨_, rfl⟩
  · obtain ⟨fault, -, rfl⟩ := mapError_eq_error.mp hc
    exact Or.inl ⟨_, rfl⟩
  · exact principalOf_error hf

/-- Claims are asked for only about a token that is valid. -/
theorem mem_calls_byToken {token : String} :
    c ∈ Stage.calls answer (byToken token) ↔ c = .provider (.validate token) ∨
      ∃ validated : ValidatedToken,
        (answer (.provider (.validate token)) : Except ProviderFault ValidatedToken) =
          .ok validated ∧ c = .provider (.claims validated) := by
  have hclaims : ∀ validated : ValidatedToken, c ∈ Stage.calls answer (do
      let claims ← Stage.ofProvider (.claims validated) fun fault =>
        .invalidToken ("claims lookup: " ++ fault.message)
      Stage.ofExcept (principalOf validated claims)) ↔ c = .provider (.claims validated) := by
    intro validated
    refine (Stage.mem_calls_bind answer).trans ⟨?_, fun h => Or.inl (List.mem_singleton.mpr h)⟩
    rintro (h | ⟨claims, -, h⟩)
    · exact List.mem_singleton.mp h
    · rw [Stage.calls_ofExcept] at h
      cases h
  refine (Stage.mem_calls_bind answer).trans (or_congr List.mem_singleton ?_)
  exact exists_congr fun validated => and_congr mapError_eq_ok (hclaims validated)

/-- Only the identity provider is asked about a token. -/
theorem calls_byToken {token : String} :
    ∀ c ∈ Stage.calls answer (byToken token), ∃ call, c = .provider call := by
  intro c hc
  rcases mem_calls_byToken.mp hc with rfl | ⟨validated, -, rfl⟩
  · exact ⟨_, rfl⟩
  · exact ⟨_, rfl⟩

/-! ## Client credentials -/

theorem clientRecord_eq_ok {id : String} {c : ClientCredential} :
    Stage.outcome p.answer (clientRecord id) = .ok (some c) ↔ p.StoreAnswers ∧ p.Knows id c := by
  unfold clientRecord Platform.Knows
  cases hid : Uuid.parse? id with
  | none => simp
  | some client =>
    refine Platform.outcome_ofStore_eq_ok.trans (and_congr_right fun _ => ?_)
    refine Store.Memory.clientById_eq_some.trans (and_congr_right fun _ => ?_)
    rw [Option.some_inj, eq_comm]

/-- A client id that nothing is stored under yields no record, or a fault of storage. -/
theorem clientRecord_of_unknown {id : String} (h : ∀ c, ¬ p.Knows id c) :
    Stage.outcome p.answer (clientRecord id) = .ok none ∨
      ∃ reason, Stage.outcome p.answer (clientRecord id) = .error ⟨.internal reason, none⟩ := by
  cases hr : Stage.outcome p.answer (clientRecord id) with
  | ok record =>
    cases record with
    | none => exact Or.inl rfl
    | some c => exact absurd (clientRecord_eq_ok.mp hr).2 (h c)
  | error r =>
    unfold clientRecord at hr
    split at hr
    · obtain ⟨reason, rfl⟩ := Platform.outcome_ofStore_error hr
      exact Or.inr ⟨reason, rfl⟩
    · cases hr

theorem ownerOf_eq_ok {record : Option ClientCredential} {secret : String} {owner : Uuid} :
    ownerOf record secret = .ok owner ↔
      ∃ c, record = some c ∧ (Secret.verify secret c.secretHash).1 = true ∧ c.owner = owner := by
  unfold ownerOf
  cases record with
  | none => simp [Secret.verifyStored, Secret.verifyDecoy]
  | some c =>
    simp only [Option.map_some, Secret.verifyStored]
    cases h : (Secret.verify secret c.secretHash).1 with
    | true => simp [h]
    | false => simp [h]

theorem outcome_byClient {id secret : String} :
    Stage.outcome answer (byClient id secret) =
      Stage.outcome answer (clientRecord id) >>= fun record =>
        (ownerOf record secret).map fun owner => ⟨owner, none, .clientCredentials⟩ := by
  unfold byClient
  rw [Stage.outcome_bind]
  refine congrArg _ (funext fun record => ?_)
  rw [Stage.outcome_bind, Stage.outcome_liftExcept]
  cases ownerOf record secret with
  | error r => rfl
  | ok owner => rfl

/-- A client id and a secret are good for the owner of the hash that the secret matches. -/
theorem byClient_eq_ok {id secret : String} :
    Stage.outcome p.answer (byClient id secret) = .ok caller ↔
      p.StoreAnswers ∧ p.Matches id secret caller := by
  obtain ⟨user, name, kind⟩ := caller
  unfold byClient Platform.Matches
  simp only [Stage.outcome_bind, Stage.outcome_liftExcept, Stage.outcome_pure, bind_eq_ok,
    ownerOf_eq_ok]
  constructor
  · rintro ⟨record, hr, owner, ⟨c, rfl, hv, rfl⟩, h⟩
    cases h
    obtain ⟨hs, hk⟩ := clientRecord_eq_ok.mp hr
    exact ⟨hs, c, hk, hv, rfl, rfl, rfl⟩
  · rintro ⟨hs, c, hk, hv, rfl, rfl, rfl⟩
    exact ⟨_, clientRecord_eq_ok.mpr ⟨hs, hk⟩, _, ⟨c, rfl, hv, rfl⟩, rfl⟩

/-- An unknown client id is refused whatever the secret. -/
theorem byClient_of_unknown {id : String} (h : ∀ c, ¬ p.Knows id c) (secret : String) :
    ∃ r, Stage.outcome p.answer (byClient id secret) = .error r ∧
      (r.failure = .invalidSecret ∨ ∃ reason, r.failure = .internal reason) := by
  unfold byClient
  rw [Stage.outcome_bind]
  rcases clientRecord_of_unknown h with hr | ⟨reason, hr⟩
  · rw [hr]
    exact ⟨⟨.invalidSecret, none⟩, rfl, Or.inl rfl⟩
  · rw [hr]
    exact ⟨⟨.internal reason, none⟩, rfl, Or.inr ⟨reason, rfl⟩⟩

/-- A client is looked up, and then its secret is checked without asking anybody. -/
theorem calls_byClient {id secret : String} :
    Stage.calls answer (byClient id secret) = Stage.calls answer (clientRecord id) := by
  unfold byClient
  rw [Stage.calls_bind]
  cases Stage.outcome answer (clientRecord id) with
  | error r => exact List.append_nil _
  | ok record =>
    dsimp only
    rw [Stage.calls_bind]
    cases Stage.outcome answer (liftM (ownerOf record secret) : Stage Uuid) with
    | error r => exact List.append_nil _
    | ok owner => exact List.append_nil _

/-- A client is looked up under the id that is presented, if that is an identifier at all. -/
theorem mem_calls_byClient {id secret : String} :
    c ∈ Stage.calls answer (byClient id secret) ↔
      ∃ client, Uuid.parse? id = some client ∧ c = .store (.client client) := by
  rw [calls_byClient]
  unfold clientRecord
  cases Uuid.parse? id with
  | none => simp
  | some client =>
    refine List.mem_singleton.trans ⟨fun h => ⟨client, rfl, h⟩, ?_⟩
    rintro ⟨_, ⟨⟩, h⟩
    exact h

end Authentication

end Gatehouse
