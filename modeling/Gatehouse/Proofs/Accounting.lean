import Gatehouse.Proofs.Endings
import Gatehouse.Proofs.Faults

/-!
# The calls of a request

Which calls a request makes (`Makes`), each at most once and in the order of its stages, and which
stage refuses it (`Phase.failure?`). Both hold whatever the calls are answered with, and also when
those who should answer are late or break down; what a store in memory counts is therefore what was
asked of it (`calls_accounted`).
-/

namespace Gatehouse

open Store

variable {α β : Type}

/-! ## Runs that are waited for -/

/-- A computation that fails closed makes the calls that its answers lead to, even where it breaks
down and the answer it has not been given counts as late. -/
theorem EndsOnFault.calls_proceed {P : Call → α → Prop} {d : Exchange α} (hd : EndsOnFault P d)
    (s : Surroundings) (now : Nat) :
    (Run.proceed s (fun _ => true) now d).2 = d.asked s.answers := by
  induction d generalizing now with
  | done a => rfl
  | ask c next ih =>
    obtain ⟨hfault, hnext⟩ := hd
    cases hout : s.outcome c (s.isLate c) with
    | none =>
      -- the run stops here, and so does `asked`: being late is a fault, and nothing follows a fault
      obtain ⟨fault, hfailed⟩ := late_eq_failed c
      obtain ⟨a, -, hdone⟩ := hfault fault
      simp only [Run.proceed, ↓reduceIte, hout, Dialogue.asked]
      rw [Surroundings.answers_of_none hout, hfailed, hdone]
      rfl
    | some x =>
      simp only [Run.proceed, ↓reduceIte, hout, Dialogue.asked]
      rw [Surroundings.answers_of_some hout, ih x (hnext x)]

namespace Admission

open Authorization

/-! ## The calls of a request -/

/-- The calls that a request makes when its calls are answered in some way. -/
inductive Makes (answer : (c : Call) → c.Answer) (policy : Policy) (request : Request) :
    Call → Prop
  | validate {token : String} (bearer : .ofHeaders request.headers = Credential.bearer token) :
      Makes answer policy request (.provider (.validate token))
  | claims {token : String} {validated : ValidatedToken}
      (bearer : .ofHeaders request.headers = Credential.bearer token)
      (valid : (answer (.provider (.validate token)) : Except ProviderFault ValidatedToken) =
        .ok validated) : Makes answer policy request (.provider (.claims validated))
  | client {id secret : String} {client : Uuid}
      (pair : .ofHeaders request.headers = Credential.client id secret)
      (uuid : Uuid.parse? id = some client) : Makes answer policy request (.store (.client client))
  | roles {caller : Principal} {role : Role}
      (known : Stage.outcome answer (authenticate (.ofHeaders request.headers) request.bootstrap) =
        .ok (some caller))
      (other : role ≠ .cosAdmin) (asked : request.requested.contains role = true) :
      Makes answer policy request (.store (.roles caller.user request.requested))
  | grant {caller : Principal} {identity : Identity} {value : List UInt8} {id : Uuid}
      (known : Stage.outcome answer (authenticate (.ofHeaders request.headers) request.bootstrap) =
        .ok (some caller))
      (resolved : Stage.outcome answer (resolveRoles policy caller request.requested) =
        .ok identity)
      (present : request.headers.first? delegationHeader = some value)
      (alone : request.headers.first? providerHeader = none) (names : Names value id)
      (delegate : identity.hasRole .delegate = true) :
      Makes answer policy request (.store (.grant id identity.user))
  | providerGrant {caller : Principal} {identity : Identity} {value : List UInt8} {id : Uuid}
      (known : Stage.outcome answer (authenticate (.ofHeaders request.headers) request.bootstrap) =
        .ok (some caller))
      (resolved : Stage.outcome answer (resolveRoles policy caller request.requested) =
        .ok identity)
      (present : request.headers.first? providerHeader = some value)
      (alone : request.headers.first? delegationHeader = none) (names : Names value id) :
      Makes answer policy request (.store (.providerGrant identity.user id policy.trustDomain))

variable {answer : (c : Call) → c.Answer} {policy : Policy} {request : Request} {c : Call}

theorem mem_calls_authenticate {credential : Credential} {bootstrap : Bool} :
    c ∈ Stage.calls answer (authenticate credential bootstrap) ↔
      (∃ token, credential = .bearer token ∧
        c ∈ Stage.calls answer (Authentication.byToken token)) ∨
      ∃ id secret, credential = .client id secret ∧
        c ∈ Stage.calls answer (Authentication.byClient id secret) := by
  unfold authenticate
  cases credential with
  | bearer token => simp
  | client id secret => simp
  | absent =>
    cases bootstrap with
    | true => simp
    | false => simp

theorem mem_calls_attach {identity : Identity} {headers : Http.Headers} :
    c ∈ Stage.calls answer (attach policy identity headers) ↔
      (∃ value, headers.first? delegationHeader = some value ∧
        headers.first? providerHeader = none ∧
          c ∈ Stage.calls answer (attachDelegation identity value)) ∨
      ∃ value, headers.first? providerHeader = some value ∧
        headers.first? delegationHeader = none ∧
          c ∈ Stage.calls answer (attachProvider policy identity value) := by
  rw [calls_attach]
  cases headers.first? delegationHeader with
  | none =>
    cases headers.first? providerHeader with
    | none => simp
    | some value => simp
  | some value =>
    cases headers.first? providerHeader with
    | none => simp
    | some other => simp

theorem mem_calls_authorize {caller : Principal} :
    c ∈ Stage.calls answer (authorize policy request caller) ↔
      c ∈ Stage.calls answer (resolveRoles policy caller request.requested) ∨
      ∃ identity, Stage.outcome answer (resolveRoles policy caller request.requested) =
        .ok identity ∧ c ∈ Stage.calls answer (attach policy identity request.headers) := by
  unfold authorize
  simp only [Stage.mem_calls_bind, Stage.calls_pure, List.not_mem_nil, and_false, exists_false,
    or_false]

theorem mem_calls_identify {credential : Credential} :
    c ∈ Stage.calls answer (identify policy request credential) ↔
      c ∈ Stage.calls answer (authenticate credential request.bootstrap) ∨
      ∃ caller, Stage.outcome answer (authenticate credential request.bootstrap) =
        .ok (some caller) ∧ c ∈ Stage.calls answer (authorize policy request caller) := by
  unfold identify
  rw [Stage.mem_calls_bind]
  refine or_congr_right ⟨?_, ?_⟩
  · rintro ⟨found, hfound, hc⟩
    cases found with
    | none => cases hc
    | some caller =>
      rw [Stage.calls_map] at hc
      exact ⟨caller, hfound, hc⟩
  · rintro ⟨caller, hfound, hc⟩
    refine ⟨some caller, hfound, ?_⟩
    rw [Stage.calls_map]
    exact hc

/-- A request makes these calls, and no other. -/
theorem mem_calls_iff :
    c ∈ Stage.calls answer (identify policy request (.ofHeaders request.headers)) ↔
      Makes answer policy request c := by
  rw [mem_calls_identify, mem_calls_authenticate]
  constructor
  · rintro ((⟨token, hbearer, hc⟩ | ⟨id, secret, hpair, hc⟩) | ⟨caller, hknown, hc⟩)
    · rcases Authentication.mem_calls_byToken.mp hc with rfl | ⟨validated, hvalid, rfl⟩
      · exact .validate hbearer
      · exact .claims hbearer hvalid
    · obtain ⟨client, hid, rfl⟩ := Authentication.mem_calls_byClient.mp hc
      exact .client hpair hid
    · rcases mem_calls_authorize.mp hc with hc | ⟨identity, hresolved, hc⟩
      · obtain ⟨⟨role, hother, hasked⟩, rfl⟩ := mem_calls_resolveRoles.mp hc
        exact .roles hknown hother hasked
      · rcases mem_calls_attach.mp hc with ⟨value, hd, hp, hc⟩ | ⟨value, hp, hd, hc⟩
        · obtain ⟨hrole, id, hnames, rfl⟩ := mem_calls_attachDelegation.mp hc
          exact .grant hknown hresolved hd hp hnames hrole
        · obtain ⟨id, hnames, rfl⟩ := mem_calls_attachProvider.mp hc
          exact .providerGrant hknown hresolved hp hd hnames
  · intro h
    cases h with
    | @validate token bearer =>
      exact Or.inl (Or.inl ⟨token, bearer, Authentication.mem_calls_byToken.mpr (Or.inl rfl)⟩)
    | @claims token validated bearer valid =>
      exact Or.inl (Or.inl ⟨token, bearer,
        Authentication.mem_calls_byToken.mpr (Or.inr ⟨validated, valid, rfl⟩)⟩)
    | @client id secret client pair uuid =>
      exact Or.inl (Or.inr ⟨id, secret, pair,
        Authentication.mem_calls_byClient.mpr ⟨client, uuid, rfl⟩⟩)
    | @roles caller role known other asked =>
      refine Or.inr ⟨caller, known, mem_calls_authorize.mpr (Or.inl ?_)⟩
      exact mem_calls_resolveRoles.mpr ⟨⟨role, other, asked⟩, rfl⟩
    | @grant caller identity value id known resolved present alone names delegate =>
      refine Or.inr ⟨caller, known, mem_calls_authorize.mpr (Or.inr ⟨identity, resolved, ?_⟩)⟩
      exact mem_calls_attach.mpr (Or.inl ⟨value, present, alone,
        mem_calls_attachDelegation.mpr ⟨delegate, id, names, rfl⟩⟩)
    | @providerGrant caller identity value id known resolved present alone names =>
      refine Or.inr ⟨caller, known, mem_calls_authorize.mpr (Or.inr ⟨identity, resolved, ?_⟩)⟩
      exact mem_calls_attach.mpr (Or.inr ⟨value, present, alone,
        mem_calls_attachProvider.mpr ⟨id, names, rfl⟩⟩)

/-! ## Their order -/

/-- The stages of a request, in order. -/
inductive Phase
  | authentication
  | roles
  | headers
  | delegation
  | provider
deriving DecidableEq

namespace Phase

def all : List Phase := [.authentication, .roles, .headers, .delegation, .provider]

/-- The number of the stages before one. -/
def place : Phase → Nat
  | .authentication => 0
  | .roles => 1
  | .headers => 2
  | .delegation => 3
  | .provider => 4

/-- The stage that makes a call. -/
def of : Call → Phase
  | .provider _ | .store (.client _) => .authentication
  | .store (.roles _ _) => .roles
  | .store (.grant _ _) => .delegation
  | .store (.providerGrant _ _ _) => .provider

end Phase

/-- The place of a call among those of a request. The two lookups of delegations have the same. -/
def turn : Call → Nat
  | .provider (.validate _) => 0
  | .provider (.claims _) => 1
  | .store (.client _) => 2
  | .store (.roles _ _) => 3
  | .store (.grant _ _) | .store (.providerGrant _ _ _) => 4

def Before (a b : Call) : Prop := turn a < turn b

/-- A stage makes its calls in order, and no other than those of its turns. -/
structure Orderly (answer : (c : Call) → c.Answer) (first last : Nat) {α : Type} (s : Stage α) :
    Prop where
  ordered : (Stage.calls answer s).Pairwise Before
  within : ∀ c ∈ Stage.calls answer s, first ≤ turn c ∧ turn c < last

namespace Orderly

theorem of_silent {s : Stage α} (first last : Nat) (h : Stage.calls answer s = []) :
    Orderly answer first last s := by
  constructor
  · rw [h]
    exact List.Pairwise.nil
  · rw [h]
    rintro c ⟨⟩

theorem of_single {s : Stage α} (h : Stage.calls answer s = [c]) :
    Orderly answer (turn c) (turn c + 1) s := by
  constructor
  · rw [h]
    exact List.pairwise_singleton Before c
  · intro c' hc'
    rw [h] at hc'
    cases List.mem_singleton.mp hc'
    exact ⟨le_rfl, Nat.lt_succ_self _⟩

theorem ofProvider (call : ProviderCall) (failure : ProviderFault → Failure) :
    Orderly answer (turn (.provider call)) (turn (.provider call) + 1)
      (Stage.ofProvider call failure) := of_single rfl

theorem ofStore (call : StoreCall) :
    Orderly answer (turn (.store call)) (turn (.store call) + 1) (Stage.ofStore call) :=
  of_single rfl

variable {first middle last : Nat} {s : Stage α}

theorem mono {first' last' : Nat} (hs : Orderly answer first last s) (hfirst : first' ≤ first)
    (hlast : last ≤ last') : Orderly answer first' last' s := by
  refine ⟨hs.ordered, ?_⟩
  intro c hc
  obtain ⟨hafter, hbefore⟩ := hs.within c hc
  exact ⟨hfirst.trans hafter, hbefore.trans_le hlast⟩

/-- The turns of a stage are over before those of what follows it. -/
theorem bind {f : α → Stage β} (hs : Orderly answer first middle s)
    (hf : ∀ a, Orderly answer middle last (f a)) (hfirst : first ≤ middle)
    (hlast : middle ≤ last) : Orderly answer first last (s >>= f) := by
  constructor
  · refine Stage.pairwise_calls_bind answer hs.ordered (fun a _ => (hf a).ordered) ?_
    intro c hc a _ c' hc'
    exact (hs.within c hc).2.trans_le ((hf a).within c' hc').1
  · refine Stage.forall_calls_bind answer ?_ ?_
    · intro c hc
      exact ⟨(hs.within c hc).1, (hs.within c hc).2.trans_le hlast⟩
    · intro a _ c hc
      exact ⟨hfirst.trans ((hf a).within c hc).1, ((hf a).within c hc).2⟩

theorem map (g : α → β) (hs : Orderly answer first last s) :
    Orderly answer first last (g <$> s) := by
  constructor
  · rw [Stage.calls_map]
    exact hs.ordered
  · rw [Stage.calls_map]
    exact hs.within

end Orderly

theorem orderly_byToken (token : String) :
    Orderly answer 0 2 (Authentication.byToken token) := by
  have hvalidate : Orderly answer 0 1 (Stage.ofProvider (.validate token) fun fault =>
      .invalidToken fault.message) := .ofProvider (.validate token) _
  refine hvalidate.bind (fun validated => ?_) (by decide) (by decide)
  have hclaims : Orderly answer 1 2 (Stage.ofProvider (.claims validated) fun fault =>
      .invalidToken ("claims lookup: " ++ fault.message)) :=
    .ofProvider (.claims validated) _
  exact hclaims.bind (fun claims => .of_silent 2 2 (Stage.calls_ofExcept ..)) (by decide) le_rfl

theorem orderly_byClient (id secret : String) :
    Orderly answer 2 3 (Authentication.byClient id secret) := by
  have hcalls : Stage.calls answer (Authentication.byClient id secret) =
      Stage.calls answer (Authentication.clientRecord id) := Authentication.calls_byClient
  unfold Authentication.clientRecord at hcalls
  cases hid : Uuid.parse? id with
  | none =>
    rw [hid] at hcalls
    exact .of_silent 2 3 hcalls
  | some client =>
    rw [hid] at hcalls
    exact .of_single hcalls

theorem orderly_authenticate (credential : Credential) (bootstrap : Bool) :
    Orderly answer 0 3 (authenticate credential bootstrap) := by
  unfold authenticate
  cases credential with
  | bearer token => exact ((orderly_byToken token).map some).mono le_rfl (by decide)
  | client id secret => exact ((orderly_byClient id secret).map some).mono (by decide) le_rfl
  | absent =>
    cases bootstrap with
    | true => exact .of_silent 0 3 rfl
    | false => exact .of_silent 0 3 rfl

theorem orderly_resolveRoles (caller : Principal) (requested : RoleSet) :
    Orderly answer 3 4 (resolveRoles policy caller requested) := by
  unfold resolveRoles
  dsimp only
  split
  · have hroles : Orderly answer 3 4 (Stage.ofStore (.roles caller.user requested)) :=
      .ofStore (.roles caller.user requested)
    exact hroles.bind (fun granted => .of_silent 4 4 rfl) (by decide) le_rfl
  · exact .of_silent 3 4 rfl

theorem orderly_lookup {complain : IdComplaints} {value : List UInt8} {missing : ActingFault}
    {lookup : Uuid → Stage (Option DelegationGrant)} {found : Uuid → DelegationGrant → α}
    (h : ∀ id, Orderly answer 4 5 (lookup id)) :
    Orderly answer 4 5 (do
      let id ← idOf complain value
      match ← lookup id with
      | some g => pure (found id g)
      | none => missing.refuse) := by
  have hid : Orderly answer 4 4 (idOf complain value) := .of_silent 4 4 (calls_idOf ..)
  refine hid.bind (fun id => ?_) le_rfl (by decide)
  refine (h id).bind (fun grant => ?_) (by decide) le_rfl
  cases grant with
  | none => exact .of_silent 5 5 rfl
  | some g => exact .of_silent 5 5 rfl

theorem orderly_attachDelegation (identity : Identity) (value : List UInt8) :
    Orderly answer 4 5 (attachDelegation identity value) := by
  unfold attachDelegation
  cases identity.hasRole .delegate with
  | false => exact .of_silent 4 5 rfl
  | true => exact orderly_lookup fun id => .ofStore (.grant id identity.user)

theorem orderly_attachProvider (identity : Identity) (value : List UInt8) :
    Orderly answer 4 5 (attachProvider policy identity value) :=
  orderly_lookup fun id => .ofStore (.providerGrant identity.user id policy.trustDomain)

theorem orderly_attach (identity : Identity) (headers : Http.Headers) :
    Orderly answer 4 5 (attach policy identity headers) := by
  have hcalls := @calls_attach answer policy identity headers
  split at hcalls
  · next value _ _ =>
    have hstage : Orderly answer 4 5 (attachDelegation identity value) :=
      orderly_attachDelegation identity value
    constructor
    · rw [hcalls]
      exact hstage.ordered
    · rw [hcalls]
      exact hstage.within
  · next value _ _ =>
    have hstage : Orderly answer 4 5 (attachProvider policy identity value) :=
      orderly_attachProvider identity value
    constructor
    · rw [hcalls]
      exact hstage.ordered
    · rw [hcalls]
      exact hstage.within
  · exact .of_silent 4 5 hcalls

theorem orderly_identify (policy : Policy) (request : Request) (credential : Credential) :
    Orderly answer 0 5 (identify policy request credential) := by
  refine (orderly_authenticate credential request.bootstrap).bind (fun found => ?_) (by decide)
    (by decide)
  cases found with
  | none => exact .of_silent 3 5 rfl
  | some caller =>
    refine Orderly.map some ?_
    refine (orderly_resolveRoles caller request.requested).bind (fun identity => ?_) (by decide)
      (by decide)
    exact (orderly_attach identity request.headers).bind (fun attached => .of_silent 5 5 rfl)
      (by decide) le_rfl

/-! ## Which stage refuses -/

def failureOf : Except Refusal α → Option Failure
  | .ok _ => none
  | .error r => some r.failure

section

variable (answer : (c : Call) → c.Answer) (policy : Policy) (request : Request)

def caller? : Option Principal :=
  (Stage.outcome answer
    (authenticate (.ofHeaders request.headers) request.bootstrap)).toOption.join

/-- The identity of the caller, once its roles are resolved. -/
def identity? : Option Identity :=
  (caller? answer request).bind fun caller =>
    (Stage.outcome answer (resolveRoles policy caller request.requested)).toOption

/-- What a stage has against a request, by itself: that of the caller needs nothing, that of its
roles needs the caller, and all others need its identity. -/
def Phase.failure? : Phase → Option Failure
  | .authentication => failureOf (Stage.outcome answer
      (authenticate (.ofHeaders request.headers) request.bootstrap))
  | .roles => (caller? answer request).bind fun caller =>
      failureOf (Stage.outcome answer (resolveRoles policy caller request.requested))
  | .headers => (identity? answer policy request).bind fun _ =>
      if (request.headers.first? delegationHeader).isSome &&
          (request.headers.first? providerHeader).isSome then
        some ActingFault.bothHeaders.failure
      else none
  | .delegation => (identity? answer policy request).bind fun identity =>
      (request.headers.first? delegationHeader).bind fun value =>
        failureOf (Stage.outcome answer (attachDelegation identity value))
  | .provider => (identity? answer policy request).bind fun identity =>
      (request.headers.first? providerHeader).bind fun value =>
        failureOf (Stage.outcome answer (attachProvider policy identity value))

end

variable {caller : Principal} {identity : Identity}

theorem caller?_of_ok (h : Stage.outcome answer
    (authenticate (.ofHeaders request.headers) request.bootstrap) = .ok (some caller)) :
    caller? answer request = some caller := by
  unfold caller?
  rw [h]
  rfl

theorem identity?_of_ok
    (hcaller : Stage.outcome answer
      (authenticate (.ofHeaders request.headers) request.bootstrap) = .ok (some caller))
    (h : Stage.outcome answer (resolveRoles policy caller request.requested) = .ok identity) :
    identity? answer policy request = some identity := by
  unfold identity?
  rw [caller?_of_ok hcaller, Option.bind_some, h]
  rfl

theorem failureOf_told (x : Except Refusal α) : failureOf (x.mapError told) = failureOf x := by
  cases x with
  | ok a => rfl
  | error r => rfl

theorem failureOf_map (g : α → β) (x : Except Refusal α) : failureOf (x.map g) = failureOf x := by
  cases x with
  | ok a => rfl
  | error r => rfl

/-- What is attached fails as its first stage that has something against it. -/
theorem failureOf_attach (h : identity? answer policy request = some identity) :
    failureOf (Stage.outcome answer (attach policy identity request.headers)) =
      [Phase.headers, .delegation, .provider].findSome?
        (Phase.failure? answer policy request) := by
  simp only [List.findSome?_cons, List.findSome?_nil, Phase.failure?, h, Option.bind_some]
  rw [outcome_attach]
  cases request.headers.first? delegationHeader with
  | none =>
    cases request.headers.first? providerHeader with
    | none => rfl
    | some value =>
      simp only [failureOf_map, failureOf_told, Option.isSome_none, Bool.false_and,
        Bool.false_eq_true, ↓reduceIte, Option.bind_none, Option.bind_some]
      cases failureOf (Stage.outcome answer (attachProvider policy identity value)) with
      | none => rfl
      | some f => rfl
  | some value =>
    cases request.headers.first? providerHeader with
    -- without the other header only this stage can have anything against the request
    | none =>
      simp only [failureOf_map, failureOf_told, Option.isSome_none, Bool.and_false,
        Bool.false_eq_true, ↓reduceIte, Option.bind_none, Option.bind_some]
      cases failureOf (Stage.outcome answer (attachDelegation identity value)) with
      | none => rfl
      | some f => rfl
    | some other => rfl

/-- A request is refused by its first stage that has something against it. -/
theorem failureOf_identify :
    failureOf (Stage.outcome answer
        (identify policy request (.ofHeaders request.headers))) =
      Phase.all.findSome? (Phase.failure? answer policy request) := by
  have hall : Phase.all = [.authentication, .roles] ++ [.headers, .delegation, .provider] := rfl
  rw [hall, List.findSome?_append]
  unfold identify
  rw [Stage.outcome_bind]
  cases hcaller : Stage.outcome answer
      (authenticate (.ofHeaders request.headers) request.bootstrap) with
  | error r =>
    simp only [List.findSome?_cons, Phase.failure?, hcaller]
    rfl
  | ok found =>
    cases found with
    | none =>
      have hnobody : caller? answer request = none := by
        unfold caller?
        rw [hcaller]
        rfl
      simp only [List.findSome?_cons, List.findSome?_nil, Phase.failure?, identity?, hnobody,
        hcaller, Option.bind_none]
      rfl
    | some caller =>
      have hknown := caller?_of_ok hcaller
      change failureOf (Stage.outcome answer (some <$> authorize policy request caller)) = _
      unfold authorize
      rw [Stage.outcome_map, failureOf_map, Stage.outcome_bind]
      cases hroles : Stage.outcome answer (resolveRoles policy caller request.requested) with
      | error r =>
        simp only [List.findSome?_cons, Phase.failure?, hcaller, hknown, hroles, Option.bind_some]
        rfl
      | ok identity =>
        -- both stages so far were passed, and what is left is what is attached
        have hearlier : [Phase.authentication, .roles].findSome?
            (Phase.failure? answer policy request) = none := by
          simp only [List.findSome?_cons, List.findSome?_nil, Phase.failure?, hcaller, hknown,
            hroles, Option.bind_some]
          rfl
        rw [hearlier, Option.none_or, ← failureOf_attach (identity?_of_ok hcaller hroles)]
        change failureOf (Stage.outcome answer (_ >>= _)) = _
        rw [Stage.outcome_bind]
        cases Stage.outcome answer (attach policy identity request.headers) with
        | ok attached => rfl
        | error r => rfl

theorem result_eq_error_iff {f : Failure} :
    ((run policy request).answered answer).result = .error f ↔
      Phase.all.findSome? (Phase.failure? answer policy request) = some f := by
  rw [result_answered, ← failureOf_identify]
  cases Stage.outcome answer (identify policy request (.ofHeaders request.headers)) with
  | ok found => simp [failureOf, Except.mapError]
  | error r => simp [failureOf, Except.mapError]

theorem authentication_passed (known : Stage.outcome answer
    (authenticate (.ofHeaders request.headers) request.bootstrap) = .ok (some caller)) :
    Phase.failure? answer policy request .authentication = none := by
  simp only [Phase.failure?, known]
  rfl

theorem roles_passed
    (known : Stage.outcome answer
      (authenticate (.ofHeaders request.headers) request.bootstrap) = .ok (some caller))
    (resolved : Stage.outcome answer (resolveRoles policy caller request.requested) =
      .ok identity) :
    Phase.failure? answer policy request .roles = none := by
  simp only [Phase.failure?, caller?_of_ok known, Option.bind_some, resolved]
  rfl

/-- A call is made when no stage before its own has anything against the request. -/
theorem Makes.place_le (h : Makes answer policy request c) {phase : Phase}
    (hphase : (phase.failure? answer policy request).isSome = true) :
    (Phase.of c).place ≤ phase.place := by
  cases h with
  | validate bearer => exact Nat.zero_le _
  | claims bearer valid => exact Nat.zero_le _
  | client pair uuid => exact Nat.zero_le _
  | roles known other asked =>
    change 1 ≤ phase.place
    cases phase with
    | authentication =>
      rw [authentication_passed known] at hphase
      cases hphase
    | roles => decide
    | headers => decide
    | delegation => decide
    | provider => decide
  | grant known resolved present alone names delegate =>
    change 3 ≤ phase.place
    cases phase with
    | authentication =>
      rw [authentication_passed known] at hphase
      cases hphase
    | roles =>
      rw [roles_passed known resolved] at hphase
      cases hphase
    -- with one of the two headers only, there is nothing against having both
    | headers => simp [Phase.failure?, alone] at hphase
    | delegation => decide
    | provider => decide
  | providerGrant known resolved present alone names =>
    change 4 ≤ phase.place
    cases phase with
    | authentication =>
      rw [authentication_passed known] at hphase
      cases hphase
    | roles =>
      rw [roles_passed known resolved] at hphase
      cases hphase
    | headers => simp [Phase.failure?, alone] at hphase
    | delegation => simp [Phase.failure?, alone] at hphase
    | provider => decide

/-! ## What a store in memory counts -/

/-- A count goes up by one if something is so, and stays as it is if not. -/
def Rises (before after : Nat) (p : Prop) : Prop :=
  (p → after = before + 1) ∧ (¬ p → after = before)

/-- A store in memory has counted the calls to it that were made, each kind at most once, and is the
same as before otherwise. -/
structure Counted (before after : Memory) (made : Call → Prop) : Prop where
  rest : after = { before with counts := after.counts }
  roles : Rises before.counts.roles after.counts.roles
    (∃ user requested, made (.store (.roles user requested)))
  clients : Rises before.counts.clients after.counts.clients (∃ id, made (.store (.client id)))
  delegations : Rises before.counts.delegations after.counts.delegations
    ((∃ id delegate, made (.store (.grant id delegate))) ∨
      ∃ delegate provider trustDomain,
        made (.store (.providerGrant delegate provider trustDomain)))

theorem countCalls_cons (w : World) (calls : List Call) :
    w.countCalls (c :: calls) = (w.countCalls [c]).countCalls calls := rfl

theorem memory_countCalls (w : World) (calls : List Call) :
    (w.countCalls calls).memory =
      { w.memory with counts := (w.countCalls calls).memory.counts } := by
  induction calls generalizing w with
  | nil => rfl
  | cons c calls ih =>
    rw [countCalls_cons, ih]
    cases c with
    | provider call => rfl
    | store call => rfl

/-- A call adds to a number that a store in memory keeps. -/
def adds (k : Counter) : Call → Bool
  | .store call => Counter.of call = k
  | .provider _ => false

theorem get_counts_countCalls (k : Counter) (w : World) (calls : List Call) :
    (w.countCalls calls).memory.counts.get k =
      w.memory.counts.get k + calls.countP (adds k) := by
  induction calls generalizing w with
  | nil => rfl
  | cons c calls ih =>
    rw [countCalls_cons, ih, List.countP_cons]
    cases c with
    | provider call => rfl
    | store call =>
      have hcount : (w.countCalls [.store call]).memory.counts.get k =
          w.memory.counts.get k + if Counter.of call = k then 1 else 0 :=
        CallCounts.get_count ..
      rw [hcount]
      simp only [adds, decide_eq_true_eq]
      omega

theorem adds_roles : adds .roles c = true ↔ ∃ user requested, c = .store (.roles user requested) := by
  cases c with
  | provider call => simp [adds]
  | store call => cases call <;> simp [adds, Counter.of]

theorem adds_clients : adds .clients c = true ↔ ∃ id, c = .store (.client id) := by
  cases c with
  | provider call => simp [adds]
  | store call => cases call <;> simp [adds, Counter.of]

theorem adds_delegations : adds .delegations c = true ↔
    (∃ id delegate, c = .store (.grant id delegate)) ∨
      ∃ delegate provider trustDomain,
        c = .store (.providerGrant delegate provider trustDomain) := by
  cases c with
  | provider call => simp [adds]
  | store call => cases call <;> simp [adds, Counter.of]

/-- The calls that add to one number have the same turn. -/
theorem turn_eq_of_adds {k : Counter} {c c' : Call} (h : adds k c = true) (h' : adds k c' = true) :
    turn c = turn c' := by
  cases k with
  | roles =>
    obtain ⟨user, requested, rfl⟩ := adds_roles.mp h
    obtain ⟨user', requested', rfl⟩ := adds_roles.mp h'
    rfl
  | clients =>
    obtain ⟨id, rfl⟩ := adds_clients.mp h
    obtain ⟨id', rfl⟩ := adds_clients.mp h'
    rfl
  | delegations =>
    rcases adds_delegations.mp h with ⟨id, delegate, rfl⟩ | ⟨delegate, provider, url, rfl⟩ <;>
      rcases adds_delegations.mp h' with ⟨id', delegate', rfl⟩ | ⟨delegate', provider', url', rfl⟩ <;>
        rfl

/-- Of calls in order, at most one adds to a number. -/
theorem countP_of_ordered {k : Counter} {calls : List Call} (h : calls.Pairwise Before) :
    (∀ c ∈ calls, ¬ adds k c = true) ∧ calls.countP (adds k) = 0 ∨
      (∃ c ∈ calls, adds k c = true) ∧ calls.countP (adds k) = 1 := by
  induction h with
  | nil => simp
  | @cons c calls hc h ih =>
    by_cases hadds : adds k c = true
    · have hnone : ∀ c' ∈ calls, ¬ adds k c' = true := by
        intro c' hc' hadds'
        have hlt : turn c < turn c' := hc c' hc'
        have heq := turn_eq_of_adds hadds hadds'
        omega
      refine Or.inr ⟨⟨c, List.mem_cons_self, hadds⟩, ?_⟩
      rw [List.countP_cons, List.countP_eq_zero.mpr hnone]
      simp [hadds]
    · rw [List.countP_cons]
      simpa [hadds] using ih

theorem rises_of_ordered {k : Counter} {calls : List Call} {p : Prop}
    (h : calls.Pairwise Before) (hp : p ↔ ∃ c ∈ calls, adds k c = true) (w : World) :
    Rises (w.memory.counts.get k) ((w.countCalls calls).memory.counts.get k) p := by
  rw [get_counts_countCalls]
  rcases countP_of_ordered (k := k) h with ⟨hnone, hcount⟩ | ⟨hsome, hcount⟩
  · rw [hcount]
    refine ⟨fun hmade => ?_, fun _ => rfl⟩
    obtain ⟨c, hc, hadds⟩ := hp.mp hmade
    exact absurd hadds (hnone c hc)
  · rw [hcount]
    exact ⟨fun _ => rfl, fun hnot => absurd (hp.mpr hsome) hnot⟩

/-- What a store in memory counts is what is asked of it, when the calls are in order. -/
theorem counted_countCalls {made : Call → Prop} {calls : List Call} (h : calls.Pairwise Before)
    (hmade : ∀ c, c ∈ calls ↔ made c) (w : World) :
    Counted w.memory (w.countCalls calls).memory made := by
  refine ⟨memory_countCalls w calls, ?_, ?_, ?_⟩
  · refine rises_of_ordered (k := .roles) h ?_ w
    simp only [hmade, adds_roles]
    aesop
  · refine rises_of_ordered (k := .clients) h ?_ w
    simp only [hmade, adds_clients]
    aesop
  · refine rises_of_ordered (k := .delegations) h ?_ w
    simp only [hmade, adds_delegations]
    aesop

/-- Where nothing else goes on, a run that is waited for leaves the store with its own calls. -/
theorem memory_holdDirectly {w : World} (h : w.background = []) (request : Request) :
    (w.holdDirectly request).1.memory =
      (w.countCalls (Run.proceed w.surroundings (fun _ => true) w.now
        (run w.policy request)).2).memory := by
  have hsettle : ∀ (calls : List Call) (within : Nat → Bool),
      ((w.countCalls calls).settle within {}).1.memory = (w.countCalls calls).memory := by
    intro calls within
    have hquiet : (w.countCalls calls).background = [] := h
    unfold World.settle
    rw [hquiet]
    rfl
  exact hsettle _ _

theorem calls_proceed_run (policy : Policy) (request : Request) (s : Surroundings) (now : Nat) :
    (Run.proceed s (fun _ => true) now (run policy request)).2 =
      Stage.calls s.answers (identify policy request (.ofHeaders request.headers)) := by
  rw [(endsOnFault_run policy request).calls_proceed, run_eq, Dialogue.asked_bind]
  exact List.append_nil _

theorem mem_calls_proceed (policy : Policy) (request : Request) (s : Surroundings) (now : Nat) :
    c ∈ (Run.proceed s (fun _ => true) now (run policy request)).2 ↔
      Makes s.answers policy request c := by
  rw [calls_proceed_run, mem_calls_iff]

theorem pairwise_calls_proceed (policy : Policy) (request : Request) (s : Surroundings)
    (now : Nat) :
    (Run.proceed s (fun _ => true) now (run policy request)).2.Pairwise Before := by
  rw [calls_proceed_run]
  exact (orderly_identify policy request _).ordered

theorem counted_holdDirectly {w : World} (h : w.background = []) (request : Request) :
    Counted w.memory (w.holdDirectly request).1.memory
      (Makes w.surroundings.answers w.policy request) := by
  rw [memory_holdDirectly h]
  exact counted_countCalls (pairwise_calls_proceed w.policy request w.surroundings w.now)
    (fun c => mem_calls_proceed w.policy request w.surroundings w.now) w

/-- However calls are answered, and whether they are late or break down: a run that is waited for
makes exactly the calls that are due, each kind at most once and in order, and none after a stage
that has something against the request; the request is refused by the first such stage. A store in
memory counts exactly these calls. -/
theorem calls_accounted (policy : Policy) (request : Request) (s : Surroundings) (now : Nat) :
    let r := Run.proceed s (fun _ => true) now (run policy request)
    (∀ c, c ∈ r.2 ↔ Makes s.answers policy request c) ∧
    r.2.Pairwise Before ∧
    (∀ c ∈ r.2, ∀ phase : Phase, (phase.failure? s.answers policy request).isSome = true →
      (Phase.of c).place ≤ phase.place) ∧
    (∀ time v, r.1 = .ended time v → ∀ f, v.result = .error f ↔
      Phase.all.findSome? (Phase.failure? s.answers policy request) = some f) ∧
    (∀ w : World, Counted w.memory (w.countCalls r.2).memory (Makes s.answers policy request)) ∧
    ∀ w : World, w.background = [] → Counted w.memory (w.holdDirectly request).1.memory
      (Makes w.surroundings.answers w.policy request) := by
  intro r
  have hordered := pairwise_calls_proceed policy request s now
  have hmakes : ∀ c, c ∈ r.2 ↔ Makes s.answers policy request c := fun c =>
    mem_calls_proceed policy request s now
  refine ⟨hmakes, hordered, ?_, ?_, counted_countCalls hordered hmakes, ?_⟩
  · intro c hc phase hphase
    exact ((hmakes c).mp hc).place_le hphase
  · intro time v hend f
    rw [Run.answered_of_ended hend]
    exact result_eq_error_iff
  · intro w hquiet
    exact counted_holdDirectly hquiet request

/-- A world in which the token is good, but the store is out of order. -/
def stoppedWorld : World where
  policy := lendingPlatform.policy
  tokens := ⟨[{
    token := "token"
    subject := "00000000-0000-0000-0000-000000000007"
    claimsSubject := "00000000-0000-0000-0000-000000000007" }]⟩
  memory := { lendingPlatform.memory with available := false }
  now := 0
  providerLimit := 1000
  storeLimit := 1000
  requestLimit := 30000
  publicPaths := []
  background := []

/-- The roles of the delegate are asked for in vain, which is counted, and its delegation is not
looked up any more. -/
theorem calls_accounted_stopped :
    stoppedWorld.background = [] ∧
      (stoppedWorld.holdDirectly delegateRequest).1.memory.counts = ⟨1, 0, 0⟩ := by
  have hquiet : stoppedWorld.background = [] := rfl
  have hcredential : Credential.ofHeaders delegateRequest.headers = .bearer "token" := by cbv
  have hcaller : Stage.outcome stoppedWorld.surroundings.answers
      (authenticate (.ofHeaders delegateRequest.headers) delegateRequest.bootstrap) =
        .ok (some ⟨⟨7⟩, some ⟨"", ""⟩, .bearerToken⟩) := by cbv
  have hunresolved : ∀ caller identity, Stage.outcome stoppedWorld.surroundings.answers
      (resolveRoles stoppedWorld.policy caller delegateRequest.requested) ≠ .ok identity := by
    rintro caller identity ⟨⟩
  obtain ⟨-, -, -, -, -, hcounted⟩ := calls_accounted stoppedWorld.policy delegateRequest
    stoppedWorld.surroundings 0
  obtain ⟨-, hroles, hclients, hdelegations⟩ := hcounted stoppedWorld hquiet
  have hasked : delegateRequest.requested.contains .delegate = true := by decide
  have hone := hroles.1 ⟨_, _, .roles hcaller (by decide : Role.delegate ≠ .cosAdmin) hasked⟩
  have hnone := hclients.2 (by
    rintro ⟨id, hm⟩
    cases hm with
    | client pair uuid =>
      rw [hcredential] at pair
      cases pair)
  have hunasked := hdelegations.2 (by
    rintro (⟨id, delegate, hm⟩ | ⟨delegate, provider, trustDomain, hm⟩)
    · cases hm with
      | grant known resolved present alone names role => exact hunresolved _ _ resolved
    · cases hm with
      | providerGrant known resolved present alone names => exact hunresolved _ _ resolved)
  refine ⟨hquiet, ?_⟩
  generalize (stoppedWorld.holdDirectly delegateRequest).1.memory.counts = counts at *
  obtain ⟨roles, clients, delegations⟩ := counts
  dsimp only at hone hnone hunasked
  rw [hone, hnone, hunasked]
  rfl

end Admission

end Gatehouse
