import Gatehouse.Proofs.HeaderText
import Gatehouse.Proofs.Isolation
import Gatehouse.Proofs.Uuid

/-!
# Secrets stay where they are

Runs that are the same but for a secret. Two requests that differ in one header only
(`Request.AgreeBut`) are authorized alike, so that what is seen of them is told by what becomes of
their credentials: of a client secret, whether it matches; of a token, what the identity provider
answers about it. Whoever looks at the results, the responses and the audit trail learns nothing
else, but the mark of the digest of a token (`secrets_confined`), which is as much as the first eight
bytes of it (`markOf_eq_iff`).
-/

namespace Gatehouse

open Store

/-! ## Headers that agree but for one name -/

namespace Http.Headers

/-- Two lists of headers are the same but for the values of one name. -/
def AgreeBut (name : String) (hs hs' : Headers) : Prop :=
  hs.filter (·.name != name) = hs'.filter (·.name != name)

theorem agreeBut_append (name : String) (hs : Headers) (value value' : List UInt8) :
    AgreeBut name (hs ++ [⟨name, value⟩]) (hs ++ [⟨name, value'⟩]) := by
  unfold AgreeBut
  simp

theorem AgreeBut.first? {name other : String} {hs hs' : Headers} (h : hs.AgreeBut name hs')
    (hother : other ≠ name) : hs.first? other = hs'.first? other := by
  rw [← first?_filter hother hs, h, first?_filter hother]

end Http.Headers

/-- Two requests are the same but for the values of one header. -/
structure Request.AgreeBut (name : String) (r r' : Request) : Prop where
  headers : r.headers.AgreeBut name r'.headers
  path : r.path = r'.path
  requested : r.requested = r'.requested
  bootstrap : r.bootstrap = r'.bootstrap

/-! ## Runs that are followed alike -/

/-- Exchanges that make the same calls and come to the same verdict end alike, also for those who
wait for them not long enough. -/
theorem Platform.endOfRun_congr {p : Platform} {within : Nat → Bool} {now : Nat}
    {d d' : Exchange Verdict} (hcalls : d'.asked p.answer = d.asked p.answer)
    (hverdict : d'.answered p.answer = d.answered p.answer) :
    endOfRun (Run.proceed p.surroundings within now d').1 =
      endOfRun (Run.proceed p.surroundings within now d).1 := by
  induction d generalizing d' now with
  | done v =>
    cases d' with
    | done v' =>
      change v' = v at hverdict
      rw [hverdict]
    | ask c next => cases hcalls
  | ask c next ih =>
    cases d' with
    | done v' => cases hcalls
    | ask c' next' =>
      injection hcalls with hcall hrest
      subst hcall
      simp only [Run.proceed, p.outcome_eq c']
      split
      · exact ih (p.answer c') hrest hverdict
      -- both are waiting for the same call when they are no longer waited for
      · rfl

theorem Platform.endOf_congr {p : Platform} {r r' : Request} (hcalls : p.calls r' = p.calls r)
    (hverdict : p.verdict r' = p.verdict r) (within : Nat → Bool) (now : Nat) :
    p.endOf within now r' = p.endOf within now r := by
  unfold endOf runWithin Run.follow
  dsimp only
  split
  · exact endOfRun_congr hcalls hverdict
  · rfl

/-- A request that is cut off has neither a result nor a record yet. -/
theorem Platform.endOf_of_cutOff {p : Platform} {within : Nat → Bool} {now : Nat} {r : Request}
    (h : ¬ p.EndsWithin within now r) : p.endOf within now r = (.cutOff, {}) := by
  apply endOfRun_of_cutOff
  unfold EndsWithin at h
  simpa using h

namespace Admission

open Authorization

variable {answer : (c : Call) → c.Answer} {policy : Policy} {p : Platform} {r r' : Request}

/-- A caller is authorized alike on requests that are the same but for a credential. -/
theorem authorize_congr {name : String} (h : r.AgreeBut name r')
    (hdelegation : delegationHeader ≠ name) (hprovider : providerHeader ≠ name)
    (caller : Principal) : authorize policy r' caller = authorize policy r caller := by
  unfold authorize attach
  rw [h.requested, h.headers.first? hdelegation, h.headers.first? hprovider]

/-- Requests that are authorized alike come to the same if their authentication does. -/
theorem outcome_identify_congr {credential credential' : Credential}
    (hauthorize : ∀ caller, authorize policy r' caller = authorize policy r caller)
    (h : Stage.outcome answer (authenticate credential' r'.bootstrap) =
      Stage.outcome answer (authenticate credential r.bootstrap)) :
    Stage.outcome answer (identify policy r' credential') =
      Stage.outcome answer (identify policy r credential) := by
  unfold identify
  rw [Stage.outcome_bind, Stage.outcome_bind, h]
  simp only [hauthorize]

theorem calls_identify_congr {credential credential' : Credential}
    (hauthorize : ∀ caller, authorize policy r' caller = authorize policy r caller)
    (hcalls : Stage.calls answer (authenticate credential' r'.bootstrap) =
      Stage.calls answer (authenticate credential r.bootstrap))
    (h : Stage.outcome answer (authenticate credential' r'.bootstrap) =
      Stage.outcome answer (authenticate credential r.bootstrap)) :
    Stage.calls answer (identify policy r' credential') =
      Stage.calls answer (identify policy r credential) := by
  unfold identify
  rw [Stage.calls_bind, Stage.calls_bind, h, hcalls]
  simp only [hauthorize]

end Admission

/-! ## Client secrets -/

namespace Secret

/-- Whether a stored hash is usable does not depend on the secret. -/
theorem verify_congr {submitted submitted' stored : String}
    (h : (verify submitted' stored).1 = (verify submitted stored).1) :
    verify submitted' stored = verify submitted stored := by
  unfold verify recompute at h ⊢
  cases hrecipe : recipe stored with
  | error reason => rfl
  | ok r =>
    rw [hrecipe] at h
    exact Prod.ext h rfl

theorem verify_of_error {submitted stored : String} {reason : Unusable}
    (h : recipe stored = .error reason) : verify submitted stored = (false, some reason) := by
  unfold verify recompute
  rw [h]
  rfl

theorem verify_of_ne {submitted stored : String} {r : Recipe} (h : recipe stored = .ok r)
    (hne : r.digest submitted ≠ r.expected) : verify submitted stored = (false, none) := by
  unfold verify recompute
  rw [h, Except.map]
  generalize r.digest submitted = computed at hne ⊢
  simp [hne]

end Secret

namespace Platform

/-- A client id and a secret prove nothing: the id is none, or nobody's, the secret does not match
the hash under it, or that hash cannot be used. -/
inductive Unproven (p : Platform) (id secret : String) : Prop
  | malformed (h : Uuid.parse? id = none)
  | unknown {client : Uuid} (h : Uuid.parse? id = some client)
      (nobody : ∀ c ∈ p.memory.clients, c.client ≠ client)
  | wrong {c : ClientCredential} {recipe : Secret.Recipe} (known : p.Knows id c)
      (usable : Secret.recipe c.secretHash = .ok recipe)
      (other : recipe.digest secret ≠ recipe.expected)
  | unusable {c : ClientCredential} {reason : Secret.Unusable} (known : p.Knows id c)
      (h : Secret.recipe c.secretHash = .error reason)

end Platform

namespace Authentication

variable {p : Platform} {id secret secret' : String}

theorem outcome_byClient_congr
    (h : ∀ c, p.Knows id c →
      (Secret.verify secret' c.secretHash).1 = (Secret.verify secret c.secretHash).1) :
    Stage.outcome p.answer (byClient id secret') = Stage.outcome p.answer (byClient id secret) := by
  rw [outcome_byClient, outcome_byClient]
  cases hrecord : Stage.outcome p.answer (clientRecord id) with
  | error r => simp only [bind, Except.bind]
  | ok record =>
    have howner : ownerOf record secret' = ownerOf record secret := by
      cases record with
      | none => rfl
      | some c =>
        have hverify := Secret.verify_congr (h c (clientRecord_eq_ok.mp hrecord).2)
        unfold ownerOf
        simp only [Option.map_some, Secret.verifyStored, hverify]
    simp only [bind, Except.bind, howner]

/-- What proves nothing is refused in one way, where the store answers. -/
theorem byClient_of_unproven (hstore : p.StoreAnswers) (h : p.Unproven id secret) :
    ∃ unusable, Stage.outcome p.answer (byClient id secret) =
      .error ⟨.invalidSecret, unusable⟩ := by
  have hfound : ∀ record, Stage.outcome p.answer (clientRecord id) = .ok record →
      ∀ unusable, ownerOf record secret = .error ⟨.invalidSecret, unusable⟩ →
        Stage.outcome p.answer (byClient id secret) = .error ⟨.invalidSecret, unusable⟩ := by
    intro record hrecord unusable howner
    rw [outcome_byClient, hrecord]
    simp only [bind, Except.bind, howner]
    rfl
  have hmismatch : ∀ c unusable, Secret.verify secret c.secretHash = (false, unusable) →
      ownerOf (some c) secret = .error ⟨.invalidSecret, unusable⟩ := by
    intro c unusable hverify
    unfold ownerOf
    simp only [Option.map_some, Secret.verifyStored, hverify]
  cases h with
  | malformed h =>
    refine ⟨none, hfound none ?_ none rfl⟩
    unfold clientRecord
    rw [h]
    rfl
  | @unknown client h nobody =>
    refine ⟨none, hfound none ?_ none rfl⟩
    unfold clientRecord
    rw [h]
    refine Platform.outcome_ofStore_eq_ok.mpr ⟨hstore, ?_⟩
    refine Option.eq_none_iff_forall_ne_some.mpr fun c hc => ?_
    obtain ⟨hmem, hclient⟩ := Memory.clientById_eq_some.mp hc
    exact nobody c hmem hclient
  | @wrong c recipe known usable other =>
    exact ⟨none, hfound (some c) (clientRecord_eq_ok.mpr ⟨hstore, known⟩) none
      (hmismatch c none (Secret.verify_of_ne usable other))⟩
  | @unusable c reason known h =>
    exact ⟨some reason, hfound (some c) (clientRecord_eq_ok.mpr ⟨hstore, known⟩) (some reason)
      (hmismatch c (some reason) (Secret.verify_of_error h))⟩

end Authentication

namespace Credential

/-- The client id is not in the header of the secret. -/
theorem client_of_agreeBut {hs hs' : Http.Headers} {id id' secret secret' : String}
    (h : hs.AgreeBut clientSecretHeader hs') (hpair : ofHeaders hs = .client id secret)
    (hpair' : ofHeaders hs' = .client id' secret') : id' = id := by
  have hid : ∀ {hs : Http.Headers} {id secret : String}, ofHeaders hs = .client id secret →
      (hs.text? clientIdHeader).map Text.trim = some id := by
    intro hs id secret hpair
    unfold ofHeaders clientPair at hpair
    split at hpair
    · cases hpair
    · split at hpair
      · next hidText _ =>
        cases hpair
        rw [hidText]
        rfl
      · cases hpair
  have htext : hs'.text? clientIdHeader = hs.text? clientIdHeader := by
    unfold Http.Headers.text?
    rw [h.first? (by decide)]
  have hsame := (hid hpair').symm.trans ((congrArg _ htext).trans (hid hpair))
  exact Option.some.inj hsame

end Credential

/-! ## Bearer tokens -/

/-- The mark of a token with a digest. -/
def markOf (digest : List UInt8) : String := String.ofList ((Encoding.hex digest).take 16)

/-- A mark tells the first eight bytes of a digest and nothing else. -/
theorem markOf_eq_iff {digest digest' : List UInt8} :
    markOf digest = markOf digest' ↔ digest.take 8 = digest'.take 8 := by
  have hmark : ∀ d, markOf d = String.ofList (Encoding.hex (d.take 8)) := fun d =>
    congrArg String.ofList (Encoding.take_hex 8 d)
  rw [hmark, hmark, String.ofList_inj, Encoding.hex_injective.eq_iff]

/-- An event as it is recorded for a token with another digest. -/
def AuditEvent.remark (digest : List UInt8) (e : AuditEvent) : AuditEvent :=
  { e with fingerprint := e.fingerprint.map fun _ => markOf digest }

/-- What is recorded about a token is told by its digest. -/
theorem Admission.auditOf_bearer (token token' : String) (path : String)
    (result : Except Failure (Option IdentityContext)) :
    auditOf (.bearer token') path result =
      (auditOf (.bearer token) path result).map (.remark (Digest.sha256 token'.toUTF8.toList)) := by
  cases result with
  | error f => rfl
  | ok found =>
    cases found with
    | none => rfl
    | some c =>
      obtain ⟨identity, kind, delegation, scope⟩ := c
      cases delegation with
      | none =>
        cases scope with
        | none => rfl
        | some s => rfl
      | some d =>
        cases scope with
        | none => rfl
        | some s => rfl

namespace Platform

/-- The identity provider answers the same about two tokens, which are themselves no part of that:
they are the same fault, or good for the same subject until the same time with the same claims. -/
inductive VouchesAlike (p : Platform) (token token' : String) : Prop
  | invalid {fault : ProviderFault} (h : p.providerAnswer (.validate token) = .error fault)
      (h' : p.providerAnswer (.validate token') = .error fault)
  | valid {validated validated' : ValidatedToken}
      (h : p.providerAnswer (.validate token) = .ok validated)
      (h' : p.providerAnswer (.validate token') = .ok validated')
      (subject : validated'.subject = validated.subject)
      (expiry : validated'.expiry = validated.expiry)
      (claims : (p.providerAnswer (.claims validated') : Except ProviderFault SubjectClaims) =
        p.providerAnswer (.claims validated))

end Platform

namespace Authentication

variable {p : Platform} {token token' : String}

theorem outcome_byToken :
    Stage.outcome p.answer (byToken token) =
      ((p.providerAnswer (.validate token)).mapError fun fault =>
        ⟨.invalidToken fault.message, none⟩) >>= fun validated : ValidatedToken =>
          ((p.providerAnswer (.claims validated)).mapError fun fault =>
            ⟨.invalidToken ("claims lookup: " ++ fault.message), none⟩) >>=
              fun claims : SubjectClaims =>
                (principalOf validated claims).mapError fun f => ⟨f, none⟩ := by
  unfold byToken
  simp only [Stage.outcome_bind, Stage.outcome_ofExcept]
  rfl

theorem outcome_byToken_congr (h : p.VouchesAlike token token') :
    Stage.outcome p.answer (byToken token') = Stage.outcome p.answer (byToken token) := by
  rw [outcome_byToken, outcome_byToken]
  cases h with
  | invalid h h' => rw [h, h']
  | @valid validated validated' h h' subject expiry claims =>
    have hprincipal : ∀ c, principalOf validated' c = principalOf validated c := by
      intro c
      unfold principalOf
      rw [subject]
    rw [h, h']
    change (Except.mapError _ (p.providerAnswer (.claims validated')) >>= _) =
      (Except.mapError _ (p.providerAnswer (.claims validated)) >>= _)
    rw [claims]
    simp only [hprincipal]

end Authentication

namespace Admission

open Authorization

variable {p : Platform} {r r' : Request}

/-! ## What is seen of a request -/

theorem verdict_eq (p : Platform) (request : Request) :
    p.verdict request = verdictOf (.ofHeaders request.headers) request.path
      (Stage.outcome p.answer (identify p.policy request (.ofHeaders request.headers))) :=
  answered_run ..

theorem audit_eq (p : Platform) (request : Request) :
    (p.verdict request).audit =
      auditOf (.ofHeaders request.headers) request.path (p.result request) := by
  rw [Platform.result, verdict_eq]
  rfl

/-- Requests with the same result are responded to alike, as long as it is not just one of them that
is cut off. -/
theorem respond_of_result {p p' : Platform} {r r' : Request} {within within' : Nat → Bool}
    {now now' : Nat} (f : AuditEvent → AuditEvent) (hresult : p'.result r' = p.result r)
    (haudit : (p'.verdict r').audit = (p.verdict r).audit.map f)
    (hends : p.EndsWithin within now r ↔ p'.EndsWithin within' now' r')
    (respond : RunEnd → Http.Response) :
    (p'.respond within' now' (.guarded r' respond)).1 =
        (p.respond within now (.guarded r respond)).1 ∧
      (p'.respond within' now' (.guarded r' respond)).2.audit =
        (p.respond within now (.guarded r respond)).2.audit.map f := by
  rw [Platform.respond_guarded, Platform.respond_guarded]
  by_cases h : p.EndsWithin within now r
  · rw [Platform.endOf_of_ends h, Platform.endOf_of_ends (hends.mp h), hresult]
    exact ⟨rfl, haudit⟩
  · rw [Platform.endOf_of_cutOff h, Platform.endOf_of_cutOff (h ∘ hends.mpr)]
    exact ⟨rfl, rfl⟩

/-- Two secrets that both match or both do not lead to the same verdict, with the same calls. -/
theorem verdict_of_agreeing_secrets {id secret secret' : String}
    (h : r.AgreeBut Credential.clientSecretHeader r')
    (hpair : .ofHeaders r.headers = Credential.client id secret)
    (hpair' : .ofHeaders r'.headers = Credential.client id secret')
    (hverify : ∀ c, p.Knows id c →
      (Secret.verify secret' c.secretHash).1 = (Secret.verify secret c.secretHash).1) :
    p.verdict r' = p.verdict r ∧ p.calls r' = p.calls r := by
  have hauthorize : ∀ caller, authorize p.policy r' caller = authorize p.policy r caller :=
    authorize_congr h (by decide) (by decide)
  have houtcome : Stage.outcome p.answer (authenticate (.client id secret') r'.bootstrap) =
      Stage.outcome p.answer (authenticate (.client id secret) r.bootstrap) := by
    unfold authenticate
    rw [Stage.outcome_map, Stage.outcome_map, Authentication.outcome_byClient_congr hverify]
  have hcalls : Stage.calls p.answer (authenticate (.client id secret') r'.bootstrap) =
      Stage.calls p.answer (authenticate (.client id secret) r.bootstrap) := by
    unfold authenticate
    rw [Stage.calls_map, Stage.calls_map, Authentication.calls_byClient,
      Authentication.calls_byClient]
  constructor
  · rw [verdict_eq, verdict_eq, hpair, hpair', ← h.path, outcome_identify_congr hauthorize houtcome]
    rfl
  · rw [p.calls_eq, p.calls_eq, hpair, hpair']
    exact calls_identify_congr hauthorize hcalls houtcome

theorem result_of_unproven {id secret : String} (hstore : p.StoreAnswers)
    (hpair : .ofHeaders r.headers = Credential.client id secret) (h : p.Unproven id secret) :
    p.result r = .error .invalidSecret := by
  obtain ⟨unusable, hout⟩ := Authentication.byClient_of_unproven hstore h
  have hrefused : p.authenticated r = .error ⟨.invalidSecret, unusable⟩ := by
    unfold Platform.authenticated
    rw [hpair]
    unfold authenticate
    rw [Stage.outcome_map, hout]
    rfl
  exact result_of_refused hrefused

/-- Two tokens about which the identity provider answers the same lead to the same result. -/
theorem result_of_tokens_alike {token token' : String}
    (h : r.AgreeBut Credential.authorizationHeader r')
    (hbearer : .ofHeaders r.headers = Credential.bearer token)
    (hbearer' : .ofHeaders r'.headers = Credential.bearer token')
    (halike : p.VouchesAlike token token') : p.result r' = p.result r := by
  have hauthorize : ∀ caller, authorize p.policy r' caller = authorize p.policy r caller :=
    authorize_congr h (by decide) (by decide)
  have houtcome : Stage.outcome p.answer (authenticate (.bearer token') r'.bootstrap) =
      Stage.outcome p.answer (authenticate (.bearer token) r.bootstrap) := by
    unfold authenticate
    rw [Stage.outcome_map, Stage.outcome_map, Authentication.outcome_byToken_congr halike]
  rw [p.result_eq, p.result_eq, hbearer, hbearer', outcome_identify_congr hauthorize houtcome]

/-- Of a client secret nothing is seen but whether it matches, not even where the request is cut
off. A client id that is none or nobody's, a secret that does not match and a hash that cannot be
used are seen as the same. Of a token nothing is seen but what the identity provider answers about
it, and the mark of its digest in the audit trail. Where the calls take different times, this is so
unless one of the requests is cut off and the other is not. -/
theorem secrets_confined (p : Platform) :
    (∀ (r r' : Request) (id secret id' secret' : String),
      r.AgreeBut Credential.clientSecretHeader r' →
      .ofHeaders r.headers = Credential.client id secret →
      .ofHeaders r'.headers = Credential.client id' secret' →
      (∀ c, p.Knows id c →
        (Secret.verify secret' c.secretHash).1 = (Secret.verify secret c.secretHash).1) →
      p.result r' = p.result r ∧ (p.verdict r').audit = (p.verdict r).audit ∧
      ∀ within now respond, p.respond within now (.guarded r' respond) =
        p.respond within now (.guarded r respond)) ∧
    (∀ (p' : Platform) (r r' : Request) (id secret id' secret' : String),
      p.StoreAnswers → p'.StoreAnswers → r.path = r'.path →
      .ofHeaders r.headers = Credential.client id secret →
      .ofHeaders r'.headers = Credential.client id' secret' →
      p.Unproven id secret → p'.Unproven id' secret' →
      p.result r = .error .invalidSecret ∧ p'.result r' = p.result r ∧
      (p'.verdict r').audit = (p.verdict r).audit ∧
      ∀ within within' now now' respond,
        (p.EndsWithin within now r ↔ p'.EndsWithin within' now' r') →
        (p'.respond within' now' (.guarded r' respond)).1 =
            (p.respond within now (.guarded r respond)).1 ∧
          (p'.respond within' now' (.guarded r' respond)).2.audit =
            (p.respond within now (.guarded r respond)).2.audit) ∧
    ∀ (r r' : Request) (token token' : String),
      r.AgreeBut Credential.authorizationHeader r' →
      .ofHeaders r.headers = Credential.bearer token →
      .ofHeaders r'.headers = Credential.bearer token' → p.VouchesAlike token token' →
      p.result r' = p.result r ∧
      (p.verdict r').audit =
        (p.verdict r).audit.map (.remark (Digest.sha256 token'.toUTF8.toList)) ∧
      ∀ within now respond, (p.EndsWithin within now r ↔ p.EndsWithin within now r') →
        (p.respond within now (.guarded r' respond)).1 =
            (p.respond within now (.guarded r respond)).1 ∧
          (p.respond within now (.guarded r' respond)).2.audit =
            (p.respond within now (.guarded r respond)).2.audit.map
              (.remark (Digest.sha256 token'.toUTF8.toList)) := by
  refine ⟨?_, ?_, ?_⟩
  · intro r r' id secret id' secret' h hpair hpair' hverify
    -- with the same calls, both requests are also cut off together
    obtain rfl := Credential.client_of_agreeBut h.headers hpair hpair'
    obtain ⟨hverdict, hcalls⟩ := verdict_of_agreeing_secrets h hpair hpair' hverify
    refine ⟨congrArg Verdict.result hverdict, congrArg Verdict.audit hverdict, ?_⟩
    intro within now respond
    rw [Platform.respond_guarded, Platform.respond_guarded,
      Platform.endOf_congr hcalls hverdict within now]
  · intro p' r r' id secret id' secret' hstore hstore' hpath hpair hpair' h h'
    have hresult := result_of_unproven hstore hpair h
    have hsame : p'.result r' = p.result r := by
      rw [hresult]
      exact result_of_unproven hstore' hpair' h'
    have haudit : (p'.verdict r').audit = (p.verdict r).audit := by
      rw [audit_eq, audit_eq, hsame, hresult, hpair, hpair', hpath]
      rfl
    refine ⟨hresult, hsame, haudit, ?_⟩
    intro within within' now now' respond hends
    have hunmarked := respond_of_result (fun e => e) hsame (by rw [haudit, List.map_id']) hends
      respond
    rwa [List.map_id'] at hunmarked
  · intro r r' token token' h hbearer hbearer' halike
    have hresult := result_of_tokens_alike h hbearer hbearer' halike
    have haudit : (p.verdict r').audit =
        (p.verdict r).audit.map (.remark (Digest.sha256 token'.toUTF8.toList)) := by
      rw [audit_eq, audit_eq, hresult, hbearer, hbearer', ← h.path]
      exact auditOf_bearer token token' r.path _
    exact ⟨hresult, haudit, fun within now respond hends =>
      respond_of_result _ hresult haudit hends respond⟩

def sampleClient : String := "00000000-0000-0000-0000-000000000001"

def secretRequest (secret : String) : Request where
  headers := [⟨Credential.clientIdHeader, sampleClient.toUTF8.toList⟩,
    ⟨Credential.clientSecretHeader, secret.toUTF8.toList⟩]
  path := "/"
  requested := .ofList []
  bootstrap := false

def tokenRequest (token : String) : Request where
  headers := [⟨Credential.authorizationHeader, ("Bearer " ++ token).toUTF8.toList⟩]
  path := "/"
  requested := .ofList []
  bootstrap := false

/-- The client, with a hash that cannot be used. -/
def spoiltClient : ClientCredential := ⟨⟨1⟩, ⟨7⟩, "hash", .argon2id⟩

def spoiltPlatform : Platform :=
  { rejectingPlatform with memory := Memory.insertClient {} spoiltClient }

/-- Two secrets of the client cannot be told apart, nor can the client from one that is unknown
elsewhere; and two tokens of one user can be told apart by their marks only. -/
theorem secrets_confined_samples :
    spoiltPlatform.result (secretRequest "b") = spoiltPlatform.result (secretRequest "a") ∧
    rejectingPlatform.result (secretRequest "b") = spoiltPlatform.result (secretRequest "a") ∧
    lendingPlatform.result (tokenRequest "b") = lendingPlatform.result (tokenRequest "a") ∧
    (lendingPlatform.verdict (tokenRequest "b")).audit =
      (lendingPlatform.verdict (tokenRequest "a")).audit.map
        (.remark (Digest.sha256 "b".toUTF8.toList)) := by
  have hagree : (secretRequest "a").AgreeBut Credential.clientSecretHeader (secretRequest "b") :=
    ⟨Http.Headers.agreeBut_append _ [_] _ _, rfl, rfl, rfl⟩
  have hpair : .ofHeaders (secretRequest "a").headers = Credential.client sampleClient "a" := by cbv
  have hpair' : .ofHeaders (secretRequest "b").headers = Credential.client sampleClient "b" := by
    cbv
  have hid : Uuid.parse? sampleClient = some ⟨1⟩ := by cbv
  have hspoilt : Secret.recipe spoiltClient.secretHash = .error .notPhc := by cbv
  have hverify : ∀ c, spoiltPlatform.Knows sampleClient c →
      (Secret.verify "b" c.secretHash).1 = (Secret.verify "a" c.secretHash).1 := by
    rintro c ⟨hc, -⟩
    cases List.mem_singleton.mp hc
    rw [Secret.verify_of_error hspoilt, Secret.verify_of_error hspoilt]
  have hunusable : spoiltPlatform.Unproven sampleClient "a" :=
    .unusable ⟨List.mem_cons_self, hid⟩ hspoilt
  have hunknown : rejectingPlatform.Unproven sampleClient "b" := by
    refine .unknown hid ?_
    rintro c ⟨⟩
  have htokens : (tokenRequest "a").AgreeBut Credential.authorizationHeader (tokenRequest "b") :=
    ⟨Http.Headers.agreeBut_append _ [] _ _, rfl, rfl, rfl⟩
  have hbearer : .ofHeaders (tokenRequest "a").headers = Credential.bearer "a" := by cbv
  have hbearer' : .ofHeaders (tokenRequest "b").headers = Credential.bearer "b" := by cbv
  have hvalid : ∀ token, lendingPlatform.providerAnswer (.validate token) =
      .ok ⟨"00000000-0000-0000-0000-000000000007", 0, token⟩ := fun token => rfl
  have halike : lendingPlatform.VouchesAlike "a" "b" :=
    .valid (hvalid "a") (hvalid "b") rfl rfl rfl
  obtain ⟨hsecrets, hunproven, -⟩ := secrets_confined spoiltPlatform
  obtain ⟨-, -, hmarked⟩ := secrets_confined lendingPlatform
  obtain ⟨hsame, -⟩ := hsecrets _ _ _ _ _ _ hagree hpair hpair' hverify
  obtain ⟨-, helsewhere, -⟩ := hunproven rejectingPlatform (secretRequest "a")
    (secretRequest "b") _ _ _ _ ⟨rfl, Nat.zero_le _⟩ ⟨rfl, Nat.zero_le _⟩ rfl hpair hpair'
    hunusable hunknown
  obtain ⟨hresult, haudit, -⟩ := hmarked _ _ _ _ htokens hbearer hbearer' halike
  exact ⟨hsame, helsewhere, hresult, haudit⟩

end Admission

end Gatehouse
