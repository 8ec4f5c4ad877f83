import Gatehouse.Proofs.Accounting
import Gatehouse.Proofs.Surface

/-!
# What a caller is told of a failure

Failures quote tokens, subjects, ids and the faults of others, for the log. The response shows the
kind of a failure and, when a caller may not act for somebody else, the sentence of the check that
it did not pass (`Failure.response_congr`). Since that sentence is told by the check alone
(`StopsAt`), requests that fail in the same way are responded to alike, whatever was behind it
(`nothing_disclosed`).
-/

namespace Gatehouse

open Http Store

/-! ## Kinds of failures -/

/-- A failure without what it quotes. -/
inductive FailureKind
  | missingCredential
  | invalidToken
  | invalidSecret
  | unknownPrincipal
  | insufficientRole
  | invalidDelegation
  | internal
deriving DecidableEq

namespace Failure

def kind : Failure → FailureKind
  | .missingCredential => .missingCredential
  | .invalidToken _ => .invalidToken
  | .invalidSecret => .invalidSecret
  | .unknownPrincipal _ => .unknownPrincipal
  | .insufficientRole => .insufficientRole
  | .invalidDelegation _ => .invalidDelegation
  | .internal _ => .internal

theorem kind_eq_invalidDelegation_iff {f : Failure} :
    f.kind = .invalidDelegation ↔ ∃ reason, f = .invalidDelegation reason := by
  cases f <;> simp [kind]

theorem kind_of_token {f : Failure} (h : f.OfToken) : f.kind ≠ .invalidDelegation := by
  rintro heq
  obtain ⟨sentence, rfl⟩ := kind_eq_invalidDelegation_iff.mp heq
  rcases h with ⟨reason, h⟩ | ⟨subject, h⟩
  · cases h
  · cases h

/-- The response shows nothing but the envelope. -/
theorem response_of_envelope {f f' : Failure} (h : f.envelope = f'.envelope) :
    f.response = f'.response := by
  have hstatus : f.status = f'.status := congrArg FailureEnvelope.status h
  unfold response
  rw [h, hstatus]

end Failure

/-- The failure of a kind that quotes nothing. -/
def FailureKind.bare : FailureKind → Failure
  | .missingCredential => .missingCredential
  | .invalidToken => .invalidToken ""
  | .invalidSecret => .invalidSecret
  | .unknownPrincipal => .unknownPrincipal ""
  | .insufficientRole => .insufficientRole
  | .invalidDelegation => .invalidDelegation ""
  | .internal => .internal ""

namespace Failure

/-- What is quoted is not shown, unless the caller may not act for somebody else. -/
theorem envelope_bare {f : Failure} (h : f.kind ≠ .invalidDelegation) :
    f.envelope = f.kind.bare.envelope := by
  cases f with
  | invalidDelegation sentence => exact absurd rfl h
  | missingCredential => rfl
  | invalidToken reason => rfl
  | invalidSecret => rfl
  | unknownPrincipal subject => rfl
  | insufficientRole => rfl
  | internal reason => rfl

/-- Failures of one kind are told in one way, those to act for somebody else if they are the
same. -/
theorem response_congr {f f' : Failure} (hkind : f.kind = f'.kind)
    (hsame : f.kind = .invalidDelegation → f = f') : f.response = f'.response := by
  by_cases hdelegation : f.kind = .invalidDelegation
  · rw [hsame hdelegation]
  · apply response_of_envelope
    have hdelegation' : f'.kind ≠ .invalidDelegation := by
      rw [← hkind]
      exact hdelegation
    rw [envelope_bare hdelegation, envelope_bare hdelegation', hkind]

end Failure

/-! ## Checks that a caller does not pass -/

namespace Authorization

variable {answer : (c : Call) → c.Answer} {policy : Policy} {identity : Identity}
  {value : List UInt8} {r : Refusal}

/-- The complaint about a value that names no identifier. -/
inductive Misnames (complain : IdComplaints) (value : List UInt8) : ActingFault → Prop
  | notText (h : textOf? value = none) : Misnames complain value complain.notText
  | blank {text : String} (h : textOf? value = some text) (blank : Text.trim text = "") :
      Misnames complain value complain.blank
  | notUuid {text : String} (h : textOf? value = some text) (some : Text.trim text ≠ "")
      (other : Uuid.parse? (Text.trim text) = none) : Misnames complain value complain.notUuid

theorem read_eq_error {complain : IdComplaints} {fault : ActingFault} :
    complain.read value = .error fault ↔ Misnames complain value fault := by
  unfold IdComplaints.read
  constructor
  · intro h
    cases htext : textOf? value with
    | none =>
      rw [htext] at h
      cases h
      exact .notText htext
    | some text =>
      rw [htext] at h
      dsimp only at h
      by_cases hblank : (Text.trim text).isEmpty = true
      · rw [if_pos hblank] at h
        cases h
        exact .blank htext (String.isEmpty_iff.mp hblank)
      · rw [if_neg hblank] at h
        cases hid : Uuid.parse? (Text.trim text) with
        | none =>
          rw [hid] at h
          cases h
          exact .notUuid htext (fun heq => hblank (String.isEmpty_iff.mpr heq)) hid
        | some id =>
          rw [hid] at h
          cases h
  · intro h
    cases h with
    | notText h => rw [h]
    | blank h blank =>
      rw [h]
      dsimp only
      rw [if_pos (String.isEmpty_iff.mpr blank)]
    | notUuid h some other =>
      rw [h]
      dsimp only
      rw [if_neg fun heq => some (String.isEmpty_iff.mp heq), other]

theorem outcome_idOf_eq_error {complain : IdComplaints} :
    Stage.outcome answer (idOf complain value) = .error r ↔
      ∃ fault, Misnames complain value fault ∧ r = ⟨fault.failure, none⟩ := by
  unfold idOf
  rw [Stage.outcome_ofExcept]
  constructor
  · intro h
    obtain ⟨f, hf, rfl⟩ := mapError_eq_error.mp h
    obtain ⟨fault, hread, rfl⟩ := mapError_eq_error.mp hf
    exact ⟨fault, read_eq_error.mp hread, rfl⟩
  · rintro ⟨fault, hfault, rfl⟩
    rw [read_eq_error.mpr hfault]
    rfl

/-- Looking a grant up for the identifier in a header fails when there is no identifier, or with the
lookup, or when there is no grant. -/
theorem outcome_lookup_eq_error {α : Type} {complain : IdComplaints} {missing : ActingFault}
    {lookup : Uuid → Stage (Option DelegationGrant)} {found : Uuid → DelegationGrant → α} :
    Stage.outcome answer (do
        let id ← idOf complain value
        match ← lookup id with
        | some g => pure (found id g)
        | none => missing.refuse) = .error r ↔
      (∃ fault, Misnames complain value fault ∧ r = ⟨fault.failure, none⟩) ∨
      ∃ id, Names value id ∧ (Stage.outcome answer (lookup id) = .error r ∨
        Stage.outcome answer (lookup id) = .ok none ∧ r = ⟨missing.failure, none⟩) := by
  simp only [Stage.outcome_bind, bind_eq_error, outcome_idOf_eq_error, outcome_idOf_eq_ok]
  refine or_congr_right (exists_congr fun id => and_congr_right fun _ => or_congr_right ?_)
  constructor
  · rintro ⟨grant, hgrant, hr⟩
    cases grant with
    | some g => cases hr
    | none =>
      cases hr
      exact ⟨hgrant, rfl⟩
  · rintro ⟨hgrant, rfl⟩
    exact ⟨none, hgrant, rfl⟩

/-- Checks that a caller with the header of a delegation does not pass. -/
inductive DelegationStops (answer : (c : Call) → c.Answer) (identity : Identity)
    (value : List UInt8) : ActingFault → Prop
  | role (other : identity.hasRole .delegate = false) :
      DelegationStops answer identity value .notADelegate
  | id {fault : ActingFault} (delegate : identity.hasRole .delegate = true)
      (misnames : Misnames delegationId value fault) : DelegationStops answer identity value fault
  | grant {id : Uuid} (delegate : identity.hasRole .delegate = true) (names : Names value id)
      (missing : (answer (.store (.grant id identity.user)) :
        Except StoreFault (Option DelegationGrant)) = .ok none) :
      DelegationStops answer identity value .noSuchDelegation

/-- Checks that a caller with the header of a provider does not pass. -/
inductive ProviderStops (answer : (c : Call) → c.Answer) (policy : Policy) (identity : Identity)
    (value : List UInt8) : ActingFault → Prop
  | id {fault : ActingFault} (misnames : Misnames providerId value fault) :
      ProviderStops answer policy identity value fault
  | grant {id : Uuid} (names : Names value id)
      (missing : (answer (.store (.providerGrant identity.user id policy.trustDomain)) :
        Except StoreFault (Option DelegationGrant)) = .ok none) :
      ProviderStops answer policy identity value .notForProvider

/-- A failure inside the server. -/
def IsInternal (r : Refusal) : Prop := ∃ reason, r = ⟨.internal reason, none⟩

theorem isInternal_of_ofStore {call : StoreCall}
    (h : Stage.outcome answer (Stage.ofStore call) = .error r) : IsInternal r := by
  rw [Stage.outcome_ofStore, mapError_eq_error] at h
  obtain ⟨fault, -, rfl⟩ := h
  exact ⟨fault.message, rfl⟩

theorem outcome_ofStore_eq_ok {call : StoreCall} {x : call.Value} :
    Stage.outcome answer (Stage.ofStore call) = .ok x ↔
      (answer (.store call) : call.Answer) = .ok x := by
  rw [Stage.outcome_ofStore, mapError_eq_ok]

theorem attachDelegation_of_stops {fault : ActingFault}
    (h : DelegationStops answer identity value fault) :
    Stage.outcome answer (attachDelegation identity value) = .error ⟨fault.failure, none⟩ := by
  unfold attachDelegation
  cases h with
  | role other =>
    rw [other]
    rfl
  | id delegate misnames =>
    rw [delegate]
    exact outcome_lookup_eq_error.mpr (Or.inl ⟨_, misnames, rfl⟩)
  | grant delegate names missing =>
    rw [delegate]
    exact outcome_lookup_eq_error.mpr
      (Or.inr ⟨_, names, Or.inr ⟨outcome_ofStore_eq_ok.mpr missing, rfl⟩⟩)

theorem stops_of_attachDelegation
    (h : Stage.outcome answer (attachDelegation identity value) = .error r) :
    (∃ fault, DelegationStops answer identity value fault ∧ r = ⟨fault.failure, none⟩) ∨
      IsInternal r := by
  unfold attachDelegation at h
  cases hrole : identity.hasRole .delegate with
  | false =>
    rw [hrole] at h
    cases h
    exact Or.inl ⟨_, .role hrole, rfl⟩
  | true =>
    rw [hrole] at h
    rcases outcome_lookup_eq_error.mp h with ⟨fault, hmisnames, rfl⟩ | ⟨id, hnames, hlookup⟩
    · exact Or.inl ⟨fault, .id hrole hmisnames, rfl⟩
    · rcases hlookup with hfault | ⟨hmissing, rfl⟩
      · exact Or.inr (isInternal_of_ofStore hfault)
      · exact Or.inl ⟨_, .grant hrole hnames (outcome_ofStore_eq_ok.mp hmissing), rfl⟩

theorem attachProvider_of_stops {fault : ActingFault}
    (h : ProviderStops answer policy identity value fault) :
    Stage.outcome answer (attachProvider policy identity value) =
      .error ⟨fault.failure, none⟩ := by
  cases h with
  | id misnames => exact outcome_lookup_eq_error.mpr (Or.inl ⟨_, misnames, rfl⟩)
  | grant names missing =>
    exact outcome_lookup_eq_error.mpr
      (Or.inr ⟨_, names, Or.inr ⟨outcome_ofStore_eq_ok.mpr missing, rfl⟩⟩)

theorem stops_of_attachProvider
    (h : Stage.outcome answer (attachProvider policy identity value) = .error r) :
    (∃ fault, ProviderStops answer policy identity value fault ∧ r = ⟨fault.failure, none⟩) ∨
      IsInternal r := by
  rcases outcome_lookup_eq_error.mp h with ⟨fault, hmisnames, rfl⟩ | ⟨id, hnames, hlookup⟩
  · exact Or.inl ⟨fault, .id hmisnames, rfl⟩
  · rcases hlookup with hfault | ⟨hmissing, rfl⟩
    · exact Or.inr (isInternal_of_ofStore hfault)
    · exact Or.inl ⟨_, .grant hnames (outcome_ofStore_eq_ok.mp hmissing), rfl⟩

end Authorization

namespace Admission

open Authorization

variable {answer : (c : Call) → c.Answer} {policy : Policy} {identity : Identity}
  {headers : Headers} {request : Request} {r : Refusal} {fault : ActingFault}

/-- Checks that the headers of a known caller do not pass. -/
inductive StopsAt (answer : (c : Call) → c.Answer) (policy : Policy) (identity : Identity)
    (headers : Headers) : ActingFault → Prop
  | bothHeaders {delegation provider : List UInt8}
      (hasDelegation : headers.first? delegationHeader = some delegation)
      (hasProvider : headers.first? providerHeader = some provider) :
      StopsAt answer policy identity headers .bothHeaders
  | delegation {value : List UInt8} {fault : ActingFault}
      (present : headers.first? delegationHeader = some value)
      (alone : headers.first? providerHeader = none)
      (stops : DelegationStops answer identity value fault) :
      StopsAt answer policy identity headers fault
  | provider {value : List UInt8} {fault : ActingFault}
      (present : headers.first? providerHeader = some value)
      (alone : headers.first? delegationHeader = none)
      (stops : ProviderStops answer policy identity value fault) :
      StopsAt answer policy identity headers fault

theorem attach_of_stopsAt (h : StopsAt answer policy identity headers fault) :
    Stage.outcome answer (attach policy identity headers) = .error ⟨fault.failure, none⟩ := by
  rw [outcome_attach]
  cases h with
  | bothHeaders hasDelegation hasProvider => rw [hasDelegation, hasProvider]
  | delegation present alone stops =>
    rw [present, alone]
    dsimp only
    rw [attachDelegation_of_stops stops]
    rfl
  | provider present alone stops =>
    rw [present, alone]
    dsimp only
    rw [attachProvider_of_stops stops]
    rfl

/-- Nothing is attached for a check that the caller does not pass, or for a failure inside the
server. -/
theorem stopsAt_of_attach
    (h : Stage.outcome answer (attach policy identity headers) = .error r) :
    (∃ fault, StopsAt answer policy identity headers fault ∧ r = ⟨fault.failure, none⟩) ∨
      IsInternal r := by
  rw [outcome_attach] at h
  split at h
  · cases h
  · next value hd hp =>
    obtain ⟨first, hfirst, rfl⟩ := mapError_eq_error.mp (map_eq_error.mp h)
    rcases stops_of_attachDelegation hfirst with ⟨fault, hstops, rfl⟩ | ⟨reason, rfl⟩
    · exact Or.inl ⟨fault, .delegation hd hp hstops, rfl⟩
    · exact Or.inr ⟨reason, rfl⟩
  · next value hd hp =>
    obtain ⟨first, hfirst, rfl⟩ := mapError_eq_error.mp (map_eq_error.mp h)
    rcases stops_of_attachProvider hfirst with ⟨fault, hstops, rfl⟩ | ⟨reason, rfl⟩
    · exact Or.inl ⟨fault, .provider hp hd hstops, rfl⟩
    · exact Or.inr ⟨reason, rfl⟩
  · next hd hp =>
    cases h
    exact Or.inl ⟨.bothHeaders, .bothHeaders hd hp, rfl⟩

/-! ## Failures of the stages before -/

theorem kind_of_internal (h : IsInternal r) : r.failure.kind ≠ .invalidDelegation := by
  obtain ⟨reason, rfl⟩ := h
  rintro ⟨⟩

theorem failure_of_ownerOf {record : Option ClientCredential} {secret : String}
    (h : Authentication.ownerOf record secret = .error r) : r.failure = .invalidSecret := by
  unfold Authentication.ownerOf at h
  dsimp only at h
  split at h
  · cases h
  · cases h
    rfl

theorem kind_of_byClient {id secret : String}
    (h : Stage.outcome answer (Authentication.byClient id secret) = .error r) :
    r.failure.kind ≠ .invalidDelegation := by
  rw [Authentication.outcome_byClient] at h
  rcases bind_eq_error.mp h with hrecord | ⟨record, -, howner⟩
  · unfold Authentication.clientRecord at hrecord
    split at hrecord
    · exact kind_of_internal (isInternal_of_ofStore hrecord)
    · cases hrecord
  · rw [failure_of_ownerOf (map_eq_error.mp howner)]
    rintro ⟨⟩

theorem kind_of_authenticate_error {credential : Credential} {bootstrap : Bool}
    (h : Stage.outcome answer (authenticate credential bootstrap) = .error r) :
    r.failure.kind ≠ .invalidDelegation := by
  unfold authenticate at h
  cases credential with
  | bearer token =>
    rw [Stage.outcome_map] at h
    exact Failure.kind_of_token (Authentication.byToken_error (map_eq_error.mp h))
  | client id secret =>
    rw [Stage.outcome_map] at h
    exact kind_of_byClient (map_eq_error.mp h)
  | absent =>
    cases bootstrap with
    | true => cases h
    | false =>
      cases h
      rintro ⟨⟩

theorem isInternal_of_resolveRoles {caller : Principal} {requested : RoleSet}
    (h : Stage.outcome answer (resolveRoles policy caller requested) = .error r) :
    IsInternal r := by
  unfold resolveRoles at h
  dsimp only at h
  split at h
  · rw [Stage.outcome_bind] at h
    rcases bind_eq_error.mp h with h | ⟨granted, -, h⟩
    · exact isInternal_of_ofStore h
    · cases h
  · cases h

theorem identity?_eq_some : identity? answer policy request = some identity ↔
    ∃ caller, Stage.outcome answer
        (authenticate (.ofHeaders request.headers) request.bootstrap) = .ok (some caller) ∧
      Stage.outcome answer (resolveRoles policy caller request.requested) = .ok identity := by
  constructor
  · intro h
    unfold identity? caller? at h
    obtain ⟨caller, hcaller, hroles⟩ := Option.bind_eq_some_iff.mp h
    refine ⟨caller, ?_, ?_⟩
    · cases hout : Stage.outcome answer
          (authenticate (.ofHeaders request.headers) request.bootstrap) with
      | error r =>
        rw [hout] at hcaller
        cases hcaller
      | ok found =>
        rw [hout] at hcaller
        exact congrArg _ hcaller
    · cases hout : Stage.outcome answer (resolveRoles policy caller request.requested) with
      | error r =>
        rw [hout] at hroles
        cases hroles
      | ok i =>
        rw [hout] at hroles
        cases hroles
        rfl
  · rintro ⟨caller, hcaller, hroles⟩
    exact identity?_of_ok hcaller hroles

/-- A request is refused for a check that its caller does not pass when that check has the first
word on it, and in no other way. -/
theorem result_eq_invalidDelegation {sentence : String} :
    ((run policy request).answered answer).result = .error (.invalidDelegation sentence) ↔
      ∃ identity fault, identity? answer policy request = some identity ∧
        StopsAt answer policy identity request.headers fault ∧ sentence = fault.message := by
  rw [result_answered, mapError_eq_error]
  unfold identify
  constructor
  · rintro ⟨r, hr, hfailure⟩
    -- no stage before the last fails in this way, and the last one does so at a check
    have hkind : r.failure.kind = .invalidDelegation := by
      rw [hfailure]
      rfl
    rw [Stage.outcome_bind] at hr
    rcases bind_eq_error.mp hr with hearly | ⟨found, hfound, hr⟩
    · exact absurd hkind (kind_of_authenticate_error hearly)
    · cases found with
      | none => cases hr
      | some caller =>
        dsimp only at hr
        unfold authorize at hr
        simp only [Stage.outcome_map, map_eq_error, Stage.outcome_bind, bind_eq_error] at hr
        rcases hr with hroles | ⟨identity, hroles, hattach | ⟨attached, -, hpure⟩⟩
        · exact absurd hkind (kind_of_internal (isInternal_of_resolveRoles hroles))
        · rcases stopsAt_of_attach hattach with ⟨fault, hstops, rfl⟩ | hinternal
          · cases hfailure
            exact ⟨identity, fault, identity?_eq_some.mpr ⟨caller, hfound, hroles⟩, hstops, rfl⟩
          · exact absurd hkind (kind_of_internal hinternal)
        · cases hpure
  · rintro ⟨identity, fault, hidentity, hstops, rfl⟩
    obtain ⟨caller, hcaller, hroles⟩ := identity?_eq_some.mp hidentity
    refine ⟨⟨fault.failure, none⟩, ?_, rfl⟩
    rw [Stage.outcome_bind, hcaller]
    change Stage.outcome answer (some <$> authorize policy request caller) = _
    unfold authorize
    rw [Stage.outcome_map, Stage.outcome_bind, hroles]
    change (Stage.outcome answer (_ >>= _)).map some = _
    rw [Stage.outcome_bind, attach_of_stopsAt hstops]
    rfl

end Admission

/-! ## Requests behind a guard -/

/-- A request to what stands behind a guard, in some surroundings. -/
structure Encounter where
  surroundings : Surroundings
  policy : Policy
  within : Nat → Bool
  now : Nat
  guard : Guard
  inner : Option IdentityContext → Response
  request : WebRequest

namespace Encounter

/-- How the run of the request ends for whoever waits for it. -/
def ending (e : Encounter) : RunEnd :=
  e.surroundings.endOf e.policy e.within e.now (e.guard.request e.request)

/-- The response that the guard lets out. -/
def response (e : Encounter) : Response :=
  e.surroundings.respond e.policy e.within e.now (e.guard.handle e.request e.inner)

/-- The response as a server sends it to the method of the request. -/
def sent (e : Encounter) (send : String → Response → Response) : Response :=
  e.surroundings.respond e.policy e.within e.now
    ((e.guard.handle e.request e.inner).map (send e.request.method))

/-- A request fails when its run does, when its run breaks down, or when what stands behind the
guard demands roles that the caller does not hold. -/
inductive FailsWith (e : Encounter) : Failure → Prop
  | refused {f : Failure} (guarded : e.guard.isPublic e.request.path = false)
      (refused : e.ending = .result (.error f)) : FailsWith e f
  | broken (guarded : e.guard.isPublic e.request.path = false) (broken : e.ending = .broken) :
      FailsWith e brokenRun
  | barred {c : IdentityContext} {roles : List Role} {f : Failure}
      (guarded : e.guard.isPublic e.request.path = false)
      (passed : e.ending = .result (.ok (some c))) (lacks : c.requireAny roles = .error f)
      (rendered : e.inner (some c) = f.response) : FailsWith e f

/-- The caller of a request does not pass a check for whom it may act. -/
def RejectedAt (e : Encounter) (fault : Authorization.ActingFault) : Prop :=
  ∃ identity,
    Admission.identity? e.surroundings.answers e.policy (e.guard.request e.request) =
      some identity ∧
    Admission.StopsAt e.surroundings.answers e.policy identity e.request.headers fault

variable {e : Encounter} {f : Failure}

theorem response_of_failsWith (h : e.FailsWith f) : e.response = f.response := by
  unfold response
  rw [Guard.respond_handle]
  cases h with
  | refused guarded refused =>
    unfold ending at refused
    rw [guarded, refused]
    rfl
  | broken guarded broken =>
    unfold ending at broken
    rw [guarded, broken]
    rfl
  | barred guarded passed lacks rendered =>
    unfold ending at passed
    rw [guarded, passed]
    exact rendered

theorem sent_eq (e : Encounter) (send : String → Response → Response) :
    e.sent send = send e.request.method e.response := Surface.respond_map _ _

/-- Whoever is told that it may not act for somebody else is told so by a check. -/
theorem rejectedAt_of_failsWith {sentence : String}
    (h : e.FailsWith (.invalidDelegation sentence)) :
    ∃ fault, e.RejectedAt fault ∧ sentence = fault.message := by
  generalize hf : Failure.invalidDelegation sentence = f at h
  cases h with
  | refused guarded refused =>
    subst hf
    have hresult := Surroundings.result_of_endOf refused
    obtain ⟨identity, fault, hidentity, hstops, hsentence⟩ :=
      Admission.result_eq_invalidDelegation.mp hresult
    exact ⟨fault, ⟨identity, hidentity, hstops⟩, hsentence⟩
  | broken guarded broken => cases hf
  | barred guarded passed lacks rendered =>
    subst hf
    unfold IdentityContext.requireAny at lacks
    split at lacks
    · cases lacks
    · cases lacks

/-- A request is rejected at one check only. -/
theorem message_of_rejectedAt {fault fault' : Authorization.ActingFault} (h : e.RejectedAt fault)
    (h' : e.RejectedAt fault') : fault.message = fault'.message := by
  obtain ⟨identity, hidentity, hstops⟩ := h
  obtain ⟨identity', hidentity', hstops'⟩ := h'
  rw [hidentity] at hidentity'
  cases hidentity'
  have heq := (Admission.attach_of_stopsAt hstops).symm.trans (Admission.attach_of_stopsAt hstops')
  simp only [Except.error.injEq, Refusal.mk.injEq, Authorization.ActingFault.failure,
    Failure.invalidDelegation.injEq, and_true] at heq
  exact heq

/-- Requests that fail in the same way, and at the same check if it is for whom their callers may
act, are given the same response: by the guard, and by any server that sends it to the same method.
Whatever settings, stores, identity providers, delays and requests are behind it makes no
difference. The one reason that is ever shown is the sentence of the check that was not passed. -/
theorem nothing_disclosed :
    (∀ (e e' : Encounter) (f f' : Failure), e.FailsWith f → e'.FailsWith f' → f.kind = f'.kind →
      (f.kind = .invalidDelegation → ∃ fault, e.RejectedAt fault ∧ e'.RejectedAt fault) →
      e.response = e'.response ∧
        ∀ send, e.request.method = e'.request.method → e.sent send = e'.sent send) ∧
    ∀ (e : Encounter) (sentence : String), e.FailsWith (.invalidDelegation sentence) →
      ∃ fault, e.RejectedAt fault ∧ sentence = fault.message := by
  refine ⟨?_, fun e sentence h => rejectedAt_of_failsWith h⟩
  intro e e' f f' h h' hkind hcheck
  have hsame : f.kind = .invalidDelegation → f = f' := by
    intro hdelegation
    obtain ⟨fault, hfault, hfault'⟩ := hcheck hdelegation
    obtain ⟨sentence, rfl⟩ := Failure.kind_eq_invalidDelegation_iff.mp hdelegation
    obtain ⟨sentence', rfl⟩ := Failure.kind_eq_invalidDelegation_iff.mp (hkind ▸ hdelegation)
    obtain ⟨first, hfirst, rfl⟩ := rejectedAt_of_failsWith h
    obtain ⟨last, hlast, rfl⟩ := rejectedAt_of_failsWith h'
    rw [message_of_rejectedAt hfirst hfault, message_of_rejectedAt hlast hfault']
  have hresponse : e.response = e'.response := by
    rw [response_of_failsWith h, response_of_failsWith h']
    exact Failure.response_congr hkind hsame
  refine ⟨hresponse, ?_⟩
  intro send hmethod
  rw [sent_eq, sent_eq, hresponse, hmethod]

def ofBearer (p : Platform) (token : String) : Encounter where
  surroundings := p.surroundings
  policy := p.policy
  within _ := true
  now := 0
  guard := ⟨.full, false, []⟩
  inner _ := .plain 200 ""
  request := ⟨"GET", "/", [⟨"authorization", ("Bearer " ++ token).toUTF8.toList⟩]⟩

theorem ending_ofBearer (p : Platform) (token : String) :
    (ofBearer p token).ending =
      .result (p.result ((ofBearer p token).guard.request (ofBearer p token).request)) :=
  p.endOf_surroundings 0 _

/-- A platform whose identity provider answers everything with a fault. -/
def faultyPlatform (fault : ProviderFault) : Platform :=
  { Admission.rejectingPlatform with provider := fun _ => .error fault }

theorem failsWith_faulty {fault : ProviderFault} {token : String}
    (h : Credential.ofHeaders (ofBearer (faultyPlatform fault) token).request.headers =
      .bearer token) :
    (ofBearer (faultyPlatform fault) token).FailsWith (.invalidToken fault.message) := by
  have hrefused : (faultyPlatform fault).authenticated
      ((ofBearer (faultyPlatform fault) token).guard.request
        (ofBearer (faultyPlatform fault) token).request) =
      .error ⟨.invalidToken fault.message, none⟩ := by
    unfold Platform.authenticated
    exact congrArg (fun c => Stage.outcome _ (Admission.authenticate c _)) h
  exact .refused rfl
    ((ending_ofBearer _ _).trans (congrArg _ (Admission.result_of_refused hrefused)))

/-- A token without a key id and one that the provider is not heard about fail for different
reasons, and are told the same. -/
theorem nothing_disclosed_of_token :
    ∃ f f', (ofBearer (faultyPlatform .missingKeyId) "a").FailsWith f ∧
      (ofBearer (faultyPlatform .timedOut) "b").FailsWith f' ∧ f ≠ f' ∧
      (ofBearer (faultyPlatform .missingKeyId) "a").response =
        (ofBearer (faultyPlatform .timedOut) "b").response := by
  have hfails : (ofBearer (faultyPlatform .missingKeyId) "a").FailsWith _ :=
    failsWith_faulty (by cbv)
  have hfails' : (ofBearer (faultyPlatform .timedOut) "b").FailsWith _ :=
    failsWith_faulty (by cbv)
  refine ⟨_, _, hfails, hfails', by decide, ?_⟩
  exact (nothing_disclosed.1 _ _ _ _ hfails hfails' rfl (by rintro ⟨⟩)).1

end Encounter

end Gatehouse
