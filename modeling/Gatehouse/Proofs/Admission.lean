import Gatehouse.Proofs.Acting
import Gatehouse.Proofs.Authentication
import Mathlib

/-!
# Requests from end to end

The stages put together. A request is let in only as the caller whom its credential shows, with the
other kind of credential left alone (`caller_authentic`), and it acts for somebody else exactly when
an active grant says so (`acting_exact`).
-/

namespace Gatehouse

/-- Who the caller of a request is found to be on a platform. -/
def Platform.authenticated (p : Platform) (request : Request) :
    Except Refusal (Option Principal) :=
  Stage.outcome p.answer (Admission.authenticate (.ofHeaders request.headers) request.bootstrap)

namespace Admission

open Authorization Store

variable {answer : (c : Call) → c.Answer} {policy : Policy} {p : Platform} {request : Request}
  {credential : Credential} {caller : Principal}

/-! ## The stages in order -/

/-- A caller is authenticated when its credential shows who it is. -/
theorem shows_of_authenticate {bootstrap : Bool}
    (h : Stage.outcome p.answer (authenticate credential bootstrap) = .ok (some caller)) :
    p.Shows credential caller := by
  unfold authenticate at h
  cases credential with
  | bearer token =>
    rw [Stage.outcome_map, map_eq_ok] at h
    obtain ⟨_, h, ⟨⟩⟩ := h
    exact Authentication.byToken_eq_ok.mp h
  | client id secret =>
    rw [Stage.outcome_map, map_eq_ok] at h
    obtain ⟨_, h, ⟨⟩⟩ := h
    exact (Authentication.byClient_eq_ok.mp h).2
  | absent =>
    cases bootstrap with
    | true => cases h
    | false => cases h

/-- Authentication asks only those who may be asked. -/
theorem calls_authenticate {bootstrap : Bool} :
    ∀ c ∈ Stage.calls p.answer (authenticate credential bootstrap), credential.MayAsk c := by
  intro c hc
  unfold authenticate at hc
  cases credential with
  | bearer token =>
    rw [Stage.calls_map] at hc
    obtain ⟨call, rfl⟩ := Authentication.calls_byToken c hc
    rintro id ⟨⟩
  | client id secret =>
    rw [Stage.calls_map] at hc
    obtain ⟨client, -, rfl⟩ := Authentication.mem_calls_byClient.mp hc
    rintro id ⟨⟩
  | absent =>
    cases bootstrap with
    | true => cases hc
    | false => cases hc

/-- Authorization resolves the roles of the caller, and then attaches what its headers ask for. -/
theorem stages_of_authorize {ctx : IdentityContext}
    (h : Stage.outcome answer (authorize policy request caller) = .ok ctx) :
    Stage.outcome answer (resolveRoles policy caller request.requested) = .ok ctx.identity ∧
      Stage.outcome answer (attach policy ctx.identity request.headers) =
        .ok (ctx.delegation, ctx.providerScope) ∧
      ctx.credential = caller.credential := by
  unfold authorize at h
  simp only [Stage.outcome_bind, bind_eq_ok] at h
  obtain ⟨identity, hroles, ⟨delegation, scope⟩, hattach, ⟨⟩⟩ := h
  exact ⟨hroles, hattach, rfl⟩

/-- Authorization leaves the caller as it was found. -/
theorem principal_of_authorize {ctx : IdentityContext}
    (h : Stage.outcome answer (authorize policy request caller) = .ok ctx) :
    ctx.principal = caller := by
  obtain ⟨hroles, -, hcredential⟩ := stages_of_authorize h
  obtain ⟨huser, hname⟩ := user_of_resolveRoles hroles
  unfold IdentityContext.principal
  rw [huser, hname, hcredential]

/-- A call that looks up what storage has about a caller. -/
def IsAbout (policy : Policy) (requested : RoleSet) (user : Uuid) (c : Call) : Prop :=
  c = .store (.roles user requested) ∨ (∃ id, c = .store (.grant id user)) ∨
    ∃ provider, c = .store (.providerGrant user provider policy.trustDomain)

theorem calls_attach_isAbout {identity : Identity} :
    ∀ c ∈ Stage.calls answer (attach policy identity request.headers),
      IsAbout policy request.requested identity.user c := by
  intro c hc
  rw [calls_attach] at hc
  split at hc
  · obtain ⟨-, id, -, rfl⟩ := mem_calls_attachDelegation.mp hc
    exact Or.inr (Or.inl ⟨id, rfl⟩)
  · obtain ⟨id, -, rfl⟩ := mem_calls_attachProvider.mp hc
    exact Or.inr (Or.inr ⟨id, rfl⟩)
  · cases hc

/-- Authorization looks up nothing but what storage has about the caller. -/
theorem calls_authorize :
    ∀ c ∈ Stage.calls answer (authorize policy request caller),
      IsAbout policy request.requested caller.user c := by
  unfold authorize
  refine Stage.forall_calls_bind _ (fun c hc => Or.inl (mem_calls_resolveRoles.mp hc).2)
    fun identity hroles => Stage.forall_calls_bind _ (fun c hc => ?_) fun attached _ => ?_
  · rw [← (user_of_resolveRoles hroles).1]
    exact calls_attach_isAbout c hc
  · rintro c ⟨⟩

/-- What storage has about a caller may be looked up after any authentication. -/
theorem mayAsk_of_isAbout {requested : RoleSet} {user : Uuid} {c : Call}
    (h : IsAbout policy requested user c) (hc : credential ≠ .absent) : credential.MayAsk c := by
  cases credential with
  | bearer token =>
    rintro id rfl
    rcases h with h | ⟨id, h⟩ | ⟨id, h⟩ <;> cases h
  | client id secret =>
    rintro call rfl
    rcases h with h | ⟨id, h⟩ | ⟨id, h⟩ <;> cases h
  | absent => exact absurd rfl hc

/-! ## Results -/

theorem result_of_caller
    (h : p.authenticated request = .ok (some caller)) :
    p.result request = ((Stage.outcome p.answer
      (authorize p.policy request caller)).map some).mapError (·.failure) := by
  rw [p.result_eq]
  unfold identify
  rw [Stage.outcome_bind, ← Platform.authenticated, h]
  exact congrArg _ (Stage.outcome_map ..)

theorem result_of_refused {r : Refusal}
    (h : p.authenticated request = .error r) :
    p.result request = .error r.failure := by
  rw [p.result_eq]
  unfold identify
  rw [Stage.outcome_bind, ← Platform.authenticated, h]
  rfl

/-- A request whose authentication is refused makes no call after it. -/
theorem calls_of_refused {r : Refusal}
    (h : p.authenticated request = .error r) :
    p.calls request =
      Stage.calls p.answer (authenticate (.ofHeaders request.headers) request.bootstrap) := by
  rw [p.calls_eq]
  unfold identify
  exact Stage.calls_bind_of_error _ h

/-- However calls are answered, whoever is let in was authenticated and then authorized. -/
theorem caller_of_ok {ctx : IdentityContext}
    (h : ((run policy request).answered answer).result = .ok (some ctx)) :
    ∃ caller, Stage.outcome answer
        (authenticate (.ofHeaders request.headers) request.bootstrap) = .ok (some caller) ∧
      Stage.outcome answer (authorize policy request caller) = .ok ctx := by
  rw [result_answered, mapError_eq_ok] at h
  unfold identify at h
  rw [Stage.outcome_bind] at h
  obtain ⟨found, hfound, h⟩ := bind_eq_ok.mp h
  cases found with
  | none => cases h
  | some caller =>
    dsimp only at h
    rw [Stage.outcome_map, map_eq_ok] at h
    obtain ⟨_, h, ⟨⟩⟩ := h
    exact ⟨caller, hfound, h⟩

/-- Whoever is let in on a platform was authenticated and then authorized. -/
theorem caller_of_result {ctx : IdentityContext} (h : p.result request = .ok (some ctx)) :
    ∃ caller, p.authenticated request = .ok (some caller) ∧
      Stage.outcome p.answer (authorize p.policy request caller) = .ok ctx :=
  caller_of_ok h

/-- Handling a request asks only those who may be asked. -/
theorem mayAsk_of_calls :
    ∀ c ∈ p.calls request, (Credential.ofHeaders request.headers).MayAsk c := by
  rw [p.calls_eq]
  unfold identify
  refine Stage.forall_calls_bind _ calls_authenticate fun found hfound => ?_
  cases found with
  | none => rintro c ⟨⟩
  | some caller =>
    -- Whoever has no credential is nobody, so there is one once a caller is known.
    have hc : Credential.ofHeaders request.headers ≠ .absent := by
      intro habsent
      have hshows := shows_of_authenticate hfound
      rw [habsent] at hshows
      exact hshows
    intro c hcall
    rw [Stage.calls_map] at hcall
    exact mayAsk_of_isAbout (calls_authorize c hcall) hc

/-! ## Who is let in -/

/-- The caller of a request that is let in is the one whom its credential shows, and nobody else's
credential is looked at. A token under which the identity provider vouches for nobody has the
request refused without a look at storage, and a client id that nothing is stored under has it
refused whatever the secret. -/
theorem caller_authentic (p : Platform) (request : Request) :
    (∀ ctx, p.result request = .ok (some ctx) →
      p.Shows (.ofHeaders request.headers) ctx.principal) ∧
    (∀ c ∈ p.calls request, (Credential.ofHeaders request.headers).MayAsk c) ∧
    (∀ token, .ofHeaders request.headers = Credential.bearer token →
      (∀ caller, ¬ p.Vouches token caller) →
      (∃ f, p.result request = .error f ∧ f.OfToken) ∧
        ∀ c ∈ p.calls request, ∃ call, c = .provider call) ∧
    (∀ id secret, .ofHeaders request.headers = Credential.client id secret →
      (∀ c, ¬ p.Knows id c) →
      p.result request = .error .invalidSecret ∨
        ∃ reason, p.result request = .error (.internal reason)) := by
  refine ⟨?_, mayAsk_of_calls, ?_, ?_⟩
  · intro ctx h
    obtain ⟨caller, ha, hauth⟩ := caller_of_result h
    rw [principal_of_authorize hauth]
    exact shows_of_authenticate ha
  · intro token htoken hnone
    cases h : Stage.outcome p.answer (Authentication.byToken token) with
    | ok caller => exact absurd (Authentication.byToken_eq_ok.mp h) (hnone caller)
    | error r =>
      have ha : p.authenticated request = .error r := by
        unfold Platform.authenticated
        rw [htoken]
        unfold authenticate
        rw [Stage.outcome_map, h]
        rfl
      refine ⟨⟨r.failure, result_of_refused ha, Authentication.byToken_error h⟩, ?_⟩
      rw [calls_of_refused ha, htoken]
      unfold authenticate
      rw [Stage.calls_map]
      exact Authentication.calls_byToken
  · intro id secret hclient hunknown
    obtain ⟨r, h, hr⟩ := Authentication.byClient_of_unknown hunknown secret
    have ha : p.authenticated request = .error r := by
      unfold Platform.authenticated
      rw [hclient]
      unfold authenticate
      rw [Stage.outcome_map, h]
      rfl
    rw [result_of_refused ha]
    rcases hr with hr | ⟨reason, hr⟩
    · exact Or.inl (by rw [hr])
    · exact Or.inr ⟨reason, by rw [hr]⟩

/-- A platform whose identity provider rejects every token. -/
def rejectingPlatform : Platform where
  policy := ⟨none, "https://as.example"⟩
  provider _ := .error (.rejected .invalidToken)
  providerDelay _ := 0
  providerLimit := 1000
  memory := {}
  storeLimit := 1000

/-- A request with a token, and with a client id and its secret. -/
def twofoldRequest : Request where
  headers := [⟨"authorization", "Bearer token".toUTF8.toList⟩,
    ⟨"x-client-id", "00000000-0000-0000-0000-000000000001".toUTF8.toList⟩,
    ⟨"x-client-secret", "secret".toUTF8.toList⟩]
  path := "/"
  requested := .ofList []
  bootstrap := false

/-- A token that the identity provider rejects is the end of a request, with a client id and its
secret beside it as well. -/
theorem caller_authentic_rejected :
    (∃ f, rejectingPlatform.result twofoldRequest = .error f ∧ f.OfToken) ∧
      ∀ c ∈ rejectingPlatform.calls twofoldRequest, ∃ call, c = .provider call := by
  refine (caller_authentic _ _).2.2.1 "token" (by cbv) ?_
  rintro caller ⟨validated, claims, ⟨-, hrejected⟩, -⟩
  cases hrejected

/-! ## For whom a caller acts -/

theorem outcome_authorize (h : p.StoreAnswers) :
    Stage.outcome p.answer (authorize p.policy request caller) =
      (Stage.outcome p.answer (attach p.policy (identityOn p caller request.requested)
        request.headers)).map fun attached =>
          ⟨identityOn p caller request.requested, caller.credential, attached.1, attached.2⟩ := by
  unfold authorize
  rw [Stage.outcome_bind, outcome_resolveRoles_of_answers h]
  change Stage.outcome p.answer (_ >>= _) = _
  rw [Stage.outcome_bind]
  cases Stage.outcome p.answer (attach p.policy (identityOn p caller request.requested)
    request.headers) with
  | ok attached => rfl
  | error r => rfl

/-- A known caller is let in with what its request attaches. -/
theorem result_eq_ok (h : p.StoreAnswers)
    (ha : p.authenticated request = .ok (some caller))
    {ctx : IdentityContext} :
    p.result request = .ok (some ctx) ↔
      ctx.identity = identityOn p caller request.requested ∧ ctx.credential = caller.credential ∧
        p.Attaches request caller.user (ctx.delegation, ctx.providerScope) := by
  obtain ⟨identity, kind, delegation, scope⟩ := ctx
  rw [result_of_caller ha, mapError_eq_ok, map_eq_ok, outcome_authorize h]
  constructor
  · rintro ⟨_, hout, ⟨⟩⟩
    obtain ⟨attached, hatt, ⟨⟩⟩ := map_eq_ok.mp hout
    exact ⟨rfl, rfl, (attach_eq_ok h).mp hatt⟩
  · rintro ⟨rfl, rfl, hatt⟩
    exact ⟨_, map_eq_ok.mpr ⟨_, (attach_eq_ok h).mpr hatt, rfl⟩, rfl⟩

/-- A known caller who is not let in is told why it may not act for somebody else. -/
theorem result_error (h : p.StoreAnswers)
    (ha : p.authenticated request = .ok (some caller))
    {f : Failure} (hf : p.result request = .error f) :
    ∃ fault : ActingFault, f = .invalidDelegation fault.message := by
  rw [result_of_caller ha, outcome_authorize h] at hf
  obtain ⟨r, hr, rfl⟩ := mapError_eq_error.mp hf
  exact attach_error h (map_eq_error.mp (map_eq_error.mp hr))

/-- Where the store answers, a known caller acts under a delegation, or for a provider, exactly when
its request says so and an active grant does. With either header and neither grant the request is
refused; the two are never attached together, and the effective user is the one acted for, or the
caller. -/
theorem acting_exact (p : Platform) (request : Request) (caller : Principal)
    (hstore : p.StoreAnswers)
    (hcaller : p.authenticated request = .ok (some caller)) :
    (∀ d, (∃ ctx, p.result request = .ok (some ctx) ∧ ctx.delegation = some d) ↔
      p.ActsUnder request caller.user d) ∧
    (∀ s, (∃ ctx, p.result request = .ok (some ctx) ∧ ctx.providerScope = some s) ↔
      p.ActsFor request caller.user s) ∧
    ((request.headers.first? delegationHeader).isSome = true ∨
        (request.headers.first? providerHeader).isSome = true →
      (∀ d, ¬ p.ActsUnder request caller.user d) → (∀ s, ¬ p.ActsFor request caller.user s) →
      ∃ fault : ActingFault, p.result request = .error (.invalidDelegation fault.message)) ∧
    (∀ ctx, p.result request = .ok (some ctx) →
      match ctx.delegation, ctx.providerScope with
      | some d, none => ctx.effectiveUser = d.delegator
      | none, some s => ctx.effectiveUser = s.provider
      | none, none => ctx.effectiveUser = caller.user
      | some _, some _ => False) := by
  refine ⟨fun d => ⟨?_, fun h => ?_⟩, fun s => ⟨?_, fun h => ?_⟩, ?_, ?_⟩
  · rintro ⟨⟨identity, kind, delegation, scope⟩, hres, rfl⟩
    obtain ⟨-, -, hatt⟩ := (result_eq_ok hstore hcaller).mp hres
    cases hatt with
    | delegation h => exact h
  · exact ⟨⟨identityOn p caller request.requested, caller.credential, some d, none⟩,
      (result_eq_ok hstore hcaller).mpr ⟨rfl, rfl, .delegation h⟩, rfl⟩
  · rintro ⟨⟨identity, kind, delegation, scope⟩, hres, rfl⟩
    obtain ⟨-, -, hatt⟩ := (result_eq_ok hstore hcaller).mp hres
    cases hatt with
    | provider h => exact h
  · exact ⟨⟨identityOn p caller request.requested, caller.credential, none, some s⟩,
      (result_eq_ok hstore hcaller).mpr ⟨rfl, rfl, .provider h⟩, rfl⟩
  · intro hheader hunder hfor
    cases hres : p.result request with
    | error f =>
      obtain ⟨fault, rfl⟩ := result_error hstore hcaller hres
      exact ⟨fault, rfl⟩
    | ok found =>
      cases found with
      | none =>
        rw [result_of_caller hcaller, mapError_eq_ok, map_eq_ok] at hres
        obtain ⟨_, -, ⟨⟩⟩ := hres
      | some ctx =>
        obtain ⟨identity, kind, delegation, scope⟩ := ctx
        obtain ⟨-, -, hatt⟩ := (result_eq_ok hstore hcaller).mp hres
        cases hatt with
        | nothing hd hp =>
          rw [hd, hp] at hheader
          simp at hheader
        | delegation h => exact absurd h (hunder _)
        | provider h => exact absurd h (hfor _)
  · rintro ⟨identity, kind, delegation, scope⟩ hres
    obtain ⟨hid, -, hatt⟩ := (result_eq_ok hstore hcaller).mp hres
    cases hatt with
    | nothing hd hp =>
      dsimp only at hid
      exact (congrArg Identity.user hid).trans user_resolved.1
    | delegation h => rfl
    | provider h => rfl

/-- A platform whose identity provider vouches for every token as the same user, to whom a provider
has lent its role on the trust domain. -/
def lendingPlatform : Platform where
  policy := ⟨none, "https://as.example"⟩
  provider
    | .validate token => .ok ⟨"00000000-0000-0000-0000-000000000007", 0, token⟩
    | .claims validated => .ok ⟨validated.subject, "Given", "Family"⟩
  providerDelay _ := 0
  providerLimit := 1000
  memory := Memory.insertDelegation {} ⟨⟨1⟩, ⟨5⟩, ⟨7⟩, .provider, "https://AS.example/"⟩
  storeLimit := 1000

/-- A request that names the delegation, with blanks around its id. -/
def delegateRequest : Request where
  headers := [⟨"authorization", "Bearer token".toUTF8.toList⟩,
    ⟨delegationHeader, " 00000000-0000-0000-0000-000000000001 ".toUTF8.toList⟩]
  path := "/"
  requested := .ofList [.delegate]
  bootstrap := false

theorem acting_exact_delegate :
    lendingPlatform.StoreAnswers ∧
    lendingPlatform.authenticated delegateRequest =
      .ok (some ⟨⟨7⟩, some ⟨"Given", "Family"⟩, .bearerToken⟩) ∧
    ∃ ctx, lendingPlatform.result delegateRequest = .ok (some ctx) ∧
      ctx.delegation = some ⟨⟨1⟩, ⟨5⟩, .provider, "https://AS.example/"⟩ := by
  have hstore : lendingPlatform.StoreAnswers := ⟨rfl, Nat.zero_le _⟩
  have hcaller : lendingPlatform.authenticated delegateRequest =
      .ok (some ⟨⟨7⟩, some ⟨"Given", "Family"⟩, .bearerToken⟩) := by cbv
  have hnames : Names " 00000000-0000-0000-0000-000000000001 ".toUTF8.toList ⟨1⟩ :=
    ⟨" 00000000-0000-0000-0000-000000000001 ", by cbv, by cbv⟩
  refine ⟨hstore, hcaller, ((acting_exact _ _ _ hstore hcaller).1 _).mpr ?_⟩
  exact ⟨by cbv, ⟨_, by cbv, hnames⟩, by cbv, _, List.mem_cons_self, rfl, rfl⟩

/-- The platform with another role lent, on another resource server. -/
def lendingWith (role : Role) (url : String) : Platform :=
  { lendingPlatform with memory := Memory.insertDelegation {} ⟨⟨1⟩, ⟨5⟩, ⟨7⟩, role, url⟩ }

/-- Whatever role is lent, the request is let in with it. -/
theorem result_lendingWith (role : Role) (url : String) :
    ∃ identity, (lendingWith role url).result delegateRequest =
      .ok (some ⟨identity, .bearerToken, some ⟨⟨1⟩, ⟨5⟩, role, url⟩, none⟩) := by
  have hstore : (lendingWith role url).StoreAnswers := ⟨rfl, Nat.zero_le _⟩
  have hcaller : (lendingWith role url).authenticated delegateRequest =
      .ok (some ⟨⟨7⟩, some ⟨"Given", "Family"⟩, .bearerToken⟩) := by cbv
  have hnames : Names " 00000000-0000-0000-0000-000000000001 ".toUTF8.toList ⟨1⟩ :=
    ⟨" 00000000-0000-0000-0000-000000000001 ", by cbv, by cbv⟩
  have hunder : (lendingWith role url).ActsUnder delegateRequest ⟨7⟩ ⟨⟨1⟩, ⟨5⟩, role, url⟩ :=
    ⟨by cbv, ⟨_, by cbv, hnames⟩, by cbv, _, List.mem_cons_self, rfl, rfl⟩
  exact ⟨_, (result_eq_ok hstore hcaller).mpr ⟨rfl, rfl, .delegation hunder⟩⟩

end Admission

end Gatehouse
