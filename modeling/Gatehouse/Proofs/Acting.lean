import Gatehouse.Proofs.Roles

/-!
# Acting for somebody else

What each of the two headers leads to. A header that is present is followed, and either attaches
what an active grant says or has the request refused with an `ActingFault`; the two together are
always refused. `outcome_attach` lists the four cases of which headers there are.
-/

namespace Gatehouse.Authorization

variable {answer : (c : Call) → c.Answer} {α β : Type}

/-! ## Identifiers in headers -/

/-- The value of a header is text that is the spelling of an identifier when trimmed. -/
def Names (value : List UInt8) (id : Uuid) : Prop :=
  ∃ text, Http.textOf? value = some text ∧ Uuid.parse? (Text.trim text) = some id

/-- An identifier is read from exactly the values that name it. -/
theorem read_eq_ok {complain : IdComplaints} {value : List UInt8} {id : Uuid} :
    complain.read value = .ok id ↔ Names value id := by
  unfold IdComplaints.read Names
  cases Http.textOf? value with
  | none => simp
  | some text =>
    by_cases hblank : (Text.trim text).isEmpty = true
    · have hnone : Uuid.parse? (Text.trim text) = none := by
        rw [String.isEmpty_iff.mp hblank]
        rfl
      simp [hblank, hnone]
    · cases hid : Uuid.parse? (Text.trim text) with
      | none => simp [hblank, hid]
      | some id' => simp [hblank, hid]

theorem outcome_idOf_eq_ok {complain : IdComplaints} {value : List UInt8} {id : Uuid} :
    Stage.outcome answer (idOf complain value) = .ok id ↔ Names value id := by
  unfold idOf
  rw [Stage.outcome_ofExcept, mapError_eq_ok, mapError_eq_ok, read_eq_ok]

/-- A refusal that tells the caller why it may not act for somebody else. -/
def IsActingFault (r : Refusal) : Prop := ∃ fault : ActingFault, r.failure = fault.failure

theorem outcome_idOf_error {complain : IdComplaints} {value : List UInt8} {r : Refusal}
    (h : Stage.outcome answer (idOf complain value) = .error r) : IsActingFault r := by
  unfold idOf at h
  simp only [Stage.outcome_ofExcept, mapError_eq_error] at h
  obtain ⟨f, ⟨fault, -, rfl⟩, rfl⟩ := h
  exact ⟨fault, rfl⟩

/-! ## Following a header -/

/-- A refusal as it is told after a header was followed. -/
def told (r : Refusal) : Refusal := ⟨r.failure, none⟩

theorem isActingFault_told {r : Refusal} (h : IsActingFault r) : IsActingFault (told r) := h

/-- A header that is present comes to what its stage comes to. -/
theorem answered_whenPresent (value : List UInt8) (stage : List UInt8 → Stage α) :
    (whenPresent (some value) stage).answered answer =
      match Stage.outcome answer (stage value) with
      | .ok a => .attached a
      | .error r => .failed r.failure := by
  unfold whenPresent Stage.outcome
  dsimp only
  rw [Dialogue.bind_eq, Dialogue.answered_bind]
  cases (stage value).run.answered answer with
  | ok a => rfl
  | error r => rfl

/-- A header that is absent attaches nothing; one that is present is followed, and its stage has
the last word. -/
theorem outcome_follow (value : Option (List UInt8)) (stage : List UInt8 → Stage α)
    (f : Option α → Stage β) :
    Stage.outcome answer (do f (← Stage.ofExcept (← whenPresent value stage).toExcept)) =
      match value with
      | none => Stage.outcome answer (f none)
      | some value => (Stage.outcome answer (stage value)).mapError told >>= fun a =>
          Stage.outcome answer (f (some a)) := by
  simp only [Stage.outcome_bind, Stage.outcome_lift, Stage.outcome_ofExcept]
  cases value with
  | none => rfl
  | some value =>
    rw [answered_whenPresent]
    dsimp only
    cases Stage.outcome answer (stage value) with
    | ok a => rfl
    | error r => rfl

/-- Following a header that is present makes the calls of its stage, and nothing is called after a
refusal. -/
theorem calls_follow (value : Option (List UInt8)) (stage : List UInt8 → Stage α)
    (f : Option α → Stage β) :
    Stage.calls answer (do f (← Stage.ofExcept (← whenPresent value stage).toExcept)) =
      match value with
      | none => Stage.calls answer (f none)
      | some value => Stage.calls answer (stage value) ++
          match Stage.outcome answer (stage value) with
          | .ok a => Stage.calls answer (f (some a))
          | .error _ => [] := by
  rw [Stage.calls_bind, Stage.calls_lift, Stage.outcome_lift]
  cases value with
  | none => rfl
  | some value =>
    unfold whenPresent Stage.calls Stage.outcome
    dsimp only
    rw [Dialogue.bind_eq, Dialogue.asked_bind, Dialogue.answered_bind]
    cases (stage value).run.answered answer with
    | ok a => exact congrArg (· ++ _) (List.append_nil _)
    | error r => exact congrArg (· ++ _) (List.append_nil _)

/-! ## The two lookups -/

variable {policy : Policy} {identity : Identity} {value : List UInt8}

theorem calls_idOf (complain : IdComplaints) (value : List UInt8) :
    Stage.calls answer (idOf complain value) = [] := Stage.calls_ofExcept ..

/-- A grant is looked up for an identifier only once that was read. -/
theorem mem_calls_lookup {c : Call} {complain : IdComplaints} {missing : ActingFault}
    {lookup : Uuid → Stage (Option DelegationGrant)} {found : Uuid → DelegationGrant → α} :
    c ∈ Stage.calls answer (do
        let id ← idOf complain value
        match ← lookup id with
        | some g => pure (found id g)
        | none => missing.refuse) ↔
      ∃ id, Names value id ∧ c ∈ Stage.calls answer (lookup id) := by
  rw [Stage.mem_calls_bind, calls_idOf]
  simp only [List.not_mem_nil, false_or, outcome_idOf_eq_ok]
  refine exists_congr fun id => and_congr_right fun _ => ?_
  refine (Stage.mem_calls_bind answer).trans (or_iff_left ?_)
  rintro ⟨grant, -, hc⟩
  cases grant with
  | none => cases hc
  | some g => cases hc

/-- Only grants to the caller are looked up for a delegation. -/
theorem mem_calls_attachDelegation {c : Call} :
    c ∈ Stage.calls answer (attachDelegation identity value) ↔
      identity.hasRole .delegate = true ∧ ∃ id, Names value id ∧
        c = .store (.grant id identity.user) := by
  unfold attachDelegation
  cases identity.hasRole .delegate with
  | false =>
    simp only [Bool.false_eq_true, false_and, iff_false]
    rintro ⟨⟩
  | true =>
    simp only [Bool.not_true, Bool.false_eq_true, ↓reduceIte, true_and]
    refine mem_calls_lookup.trans (exists_congr fun id => and_congr_right fun _ => ?_)
    exact List.mem_singleton

/-- Only grants to the caller on the trust domain are looked up for a provider. -/
theorem mem_calls_attachProvider {c : Call} :
    c ∈ Stage.calls answer (attachProvider policy identity value) ↔
      ∃ id, Names value id ∧ c = .store (.providerGrant identity.user id policy.trustDomain) := by
  refine mem_calls_lookup.trans (exists_congr fun id => and_congr_right fun _ => ?_)
  exact List.mem_singleton

variable {p : Platform}

theorem outcome_grant_bind (h : p.StoreAnswers) (id delegate : Uuid)
    (f : Option DelegationGrant → Stage α) :
    Stage.outcome p.answer
        ((Stage.ofStore (.grant id delegate) : Stage (Option DelegationGrant)) >>= f) =
      Stage.outcome p.answer (f (p.memory.grantById id delegate)) :=
  Platform.outcome_ofStore_bind h (.grant id delegate) f

theorem outcome_providerGrant_bind (h : p.StoreAnswers) (delegate provider : Uuid)
    (trustDomain : String) (f : Option DelegationGrant → Stage α) :
    Stage.outcome p.answer
        ((Stage.ofStore (.providerGrant delegate provider trustDomain) :
          Stage (Option DelegationGrant)) >>= f) =
      Stage.outcome p.answer (f (p.memory.providerGrant delegate provider trustDomain)) :=
  Platform.outcome_ofStore_bind h (.providerGrant delegate provider trustDomain) f

/-- A delegation is attached when the caller holds the role of a delegate and an active grant under
the id was given to it. -/
theorem attachDelegation_eq_ok (h : p.StoreAnswers) {d : DelegationContext} :
    Stage.outcome p.answer (attachDelegation identity value) = .ok d ↔
      identity.hasRole .delegate = true ∧ Names value d.id ∧
        ∃ g, ⟨g, true⟩ ∈ p.memory.delegations ∧ g.delegate = identity.user ∧
          d = ⟨g.id, g.delegator, g.role, g.url⟩ := by
  unfold attachDelegation
  cases hrole : identity.hasRole .delegate with
  | false =>
    simp only [Bool.false_eq_true, false_and, iff_false]
    rintro ⟨⟩
  | true =>
    simp only [Bool.not_true, Bool.false_eq_true, ↓reduceIte, Stage.outcome_bind, bind_eq_ok,
      outcome_idOf_eq_ok, outcome_grant_bind h, true_and]
    constructor
    · rintro ⟨id, hid, hd⟩
      cases hfind : p.memory.grantById id identity.user with
      | none =>
        rw [hfind] at hd
        cases hd
      | some g =>
        rw [hfind] at hd
        cases hd
        obtain ⟨hmem, hdelegate, rfl⟩ := Store.Memory.grantById_eq_some.mp hfind
        exact ⟨hid, g, hmem, hdelegate, rfl⟩
    · rintro ⟨hid, g, hmem, hdelegate, rfl⟩
      refine ⟨g.id, hid, ?_⟩
      rw [Store.Memory.grantById_eq_some.mpr ⟨hmem, hdelegate, rfl⟩]
      rfl

/-- A provider is attached when an active grant lets the caller act for it on the trust domain. -/
theorem attachProvider_eq_ok (h : p.StoreAnswers) {s : ProviderScope} :
    Stage.outcome p.answer (attachProvider p.policy identity value) = .ok s ↔
      Names value s.provider ∧ s.trustDomain = p.policy.trustDomain ∧
        ∃ g, ⟨g, true⟩ ∈ p.memory.delegations ∧ g.delegate = identity.user ∧
          g.delegator = s.provider ∧ g.role = .provider ∧
          ServerUrl.normalise g.url = ServerUrl.normalise p.policy.trustDomain := by
  obtain ⟨provider, trustDomain⟩ := s
  unfold attachProvider
  simp only [Stage.outcome_bind, bind_eq_ok, outcome_idOf_eq_ok, outcome_providerGrant_bind h,
    ← Store.Memory.isSome_providerGrant]
  constructor
  · rintro ⟨id, hid, hs⟩
    cases hfind : p.memory.providerGrant identity.user id p.policy.trustDomain with
    | none =>
      rw [hfind] at hs
      cases hs
    | some g =>
      rw [hfind] at hs
      cases hs
      exact ⟨hid, rfl, by rw [hfind]; rfl⟩
  · rintro ⟨hid, rfl, hsome⟩
    obtain ⟨g, hfind⟩ := Option.isSome_iff_exists.mp hsome
    refine ⟨provider, hid, ?_⟩
    rw [hfind]
    rfl

theorem attachDelegation_error (h : p.StoreAnswers) {r : Refusal}
    (hr : Stage.outcome p.answer (attachDelegation identity value) = .error r) :
    IsActingFault r := by
  unfold attachDelegation at hr
  cases hrole : identity.hasRole .delegate with
  | false =>
    rw [hrole] at hr
    cases hr
    exact ⟨.notADelegate, rfl⟩
  | true =>
    simp only [hrole, Bool.not_true, Bool.false_eq_true, ↓reduceIte, Stage.outcome_bind,
      bind_eq_error, outcome_grant_bind h] at hr
    rcases hr with hr | ⟨id, -, hr⟩
    · exact outcome_idOf_error hr
    · cases hfind : p.memory.grantById id identity.user with
      | none =>
        rw [hfind] at hr
        cases hr
        exact ⟨.noSuchDelegation, rfl⟩
      | some g =>
        rw [hfind] at hr
        cases hr

theorem attachProvider_error (h : p.StoreAnswers) {r : Refusal}
    (hr : Stage.outcome p.answer (attachProvider p.policy identity value) = .error r) :
    IsActingFault r := by
  unfold attachProvider at hr
  simp only [Stage.outcome_bind, bind_eq_error, outcome_providerGrant_bind h] at hr
  rcases hr with hr | ⟨id, -, hr⟩
  · exact outcome_idOf_error hr
  · cases hfind : p.memory.providerGrant identity.user id p.policy.trustDomain with
    | none =>
      rw [hfind] at hr
      cases hr
      exact ⟨.notForProvider, rfl⟩
    | some g =>
      rw [hfind] at hr
      cases hr

end Gatehouse.Authorization

namespace Gatehouse.Admission

open Authorization

variable {answer : (c : Call) → c.Answer} {policy : Policy} {identity : Identity}
  {headers : Http.Headers}

/-- What both headers, either, or neither lead to. -/
theorem outcome_attach :
    Stage.outcome answer (attach policy identity headers) =
      match headers.first? delegationHeader, headers.first? providerHeader with
      | none, none => .ok (none, none)
      | some value, none =>
        ((Stage.outcome answer (attachDelegation identity value)).mapError told).map
          fun d => (some d, none)
      | none, some value =>
        ((Stage.outcome answer (attachProvider policy identity value)).mapError told).map
          fun s => (none, some s)
      | some _, some _ => .error ⟨ActingFault.bothHeaders.failure, none⟩ := by
  unfold attach resolveDelegation resolveProvider
  cases headers.first? delegationHeader with
  | none =>
    simp only [Option.isSome_none, Bool.false_and, Bool.false_eq_true, ↓reduceIte,
      outcome_follow]
    cases headers.first? providerHeader with
    | none => rfl
    | some value =>
      cases Stage.outcome answer (attachProvider policy identity value) with
      | ok s => rfl
      | error r => rfl
  | some value =>
    cases headers.first? providerHeader with
    | none =>
      simp only [Option.isSome_none, Bool.and_false, Bool.false_eq_true, ↓reduceIte,
        outcome_follow]
      cases Stage.outcome answer (attachDelegation identity value) with
      | ok d => rfl
      | error r => rfl
    | some other => rfl

/-- At most one thing is attached, and it is what the stage of its header comes to. -/
theorem attached_of_attach {attached : Option DelegationContext × Option ProviderScope}
    (h : Stage.outcome answer (attach policy identity headers) = .ok attached) :
    attached = (none, none) ∨
      (∃ value d, headers.first? delegationHeader = some value ∧
        Stage.outcome answer (attachDelegation identity value) = .ok d ∧
          attached = (some d, none)) ∨
      ∃ value s, headers.first? providerHeader = some value ∧
        Stage.outcome answer (attachProvider policy identity value) = .ok s ∧
          attached = (none, some s) := by
  rw [outcome_attach] at h
  split at h
  · cases h
    exact Or.inl rfl
  · next value hd _ =>
    obtain ⟨d, hstage, rfl⟩ := map_eq_ok.mp h
    exact Or.inr (Or.inl ⟨value, d, hd, mapError_eq_ok.mp hstage, rfl⟩)
  · next value _ hp =>
    obtain ⟨s, hstage, rfl⟩ := map_eq_ok.mp h
    exact Or.inr (Or.inr ⟨value, s, hp, mapError_eq_ok.mp hstage, rfl⟩)
  · cases h

/-- Nothing is looked up for both headers or neither; either one makes the calls of its stage. -/
theorem calls_attach :
    Stage.calls answer (attach policy identity headers) =
      match headers.first? delegationHeader, headers.first? providerHeader with
      | some value, none => Stage.calls answer (attachDelegation identity value)
      | none, some value => Stage.calls answer (attachProvider policy identity value)
      | _, _ => [] := by
  unfold attach resolveDelegation resolveProvider
  cases headers.first? delegationHeader with
  | none =>
    simp only [Option.isSome_none, Bool.false_and, Bool.false_eq_true, ↓reduceIte, calls_follow]
    cases headers.first? providerHeader with
    | none => rfl
    | some value =>
      dsimp only
      cases Stage.outcome answer (attachProvider policy identity value) with
      | ok s => exact List.append_nil _
      | error r => exact List.append_nil _
  | some value =>
    cases headers.first? providerHeader with
    | none =>
      simp only [Option.isSome_none, Bool.and_false, Bool.false_eq_true, ↓reduceIte, calls_follow]
      cases Stage.outcome answer (attachDelegation identity value) with
      | ok d => exact List.append_nil _
      | error r => exact List.append_nil _
    | some other => rfl

end Gatehouse.Admission

namespace Gatehouse

open Admission Authorization

namespace Platform

/-- A request names a delegation that was given to a user, and asks for the role of a delegate. -/
def ActsUnder (p : Platform) (request : Request) (user : Uuid) (d : DelegationContext) : Prop :=
  request.headers.first? providerHeader = none ∧
    (∃ value, request.headers.first? delegationHeader = some value ∧ Names value d.id) ∧
    request.requested.contains .delegate = true ∧
    ∃ g, ⟨g, true⟩ ∈ p.memory.delegations ∧ g.delegate = user ∧
      d = ⟨g.id, g.delegator, g.role, g.url⟩

/-- A request names a provider whose role a user was given on the trust domain. -/
def ActsFor (p : Platform) (request : Request) (user : Uuid) (s : ProviderScope) : Prop :=
  request.headers.first? delegationHeader = none ∧
    (∃ value, request.headers.first? providerHeader = some value ∧ Names value s.provider) ∧
    s.trustDomain = p.policy.trustDomain ∧
    ∃ g, ⟨g, true⟩ ∈ p.memory.delegations ∧ g.delegate = user ∧ g.delegator = s.provider ∧
      g.role = .provider ∧ ServerUrl.normalise g.url = ServerUrl.normalise p.policy.trustDomain

/-- What a request of a user attaches: nothing without a header, or what its one header names. -/
inductive Attaches (p : Platform) (request : Request) (user : Uuid) :
    Option DelegationContext × Option ProviderScope → Prop
  | nothing (noDelegation : request.headers.first? delegationHeader = none)
      (noProvider : request.headers.first? providerHeader = none) :
      Attaches p request user (none, none)
  | delegation {d : DelegationContext} (h : p.ActsUnder request user d) :
      Attaches p request user (some d, none)
  | provider {s : ProviderScope} (h : p.ActsFor request user s) :
      Attaches p request user (none, some s)

end Platform

namespace Admission

variable {p : Platform} {request : Request} {caller : Principal}

/-- What is attached for a caller is what its request attaches. -/
theorem attach_eq_ok (h : p.StoreAnswers)
    {attached : Option DelegationContext × Option ProviderScope} :
    Stage.outcome p.answer
        (attach p.policy (identityOn p caller request.requested) request.headers) = .ok attached ↔
      p.Attaches request caller.user attached := by
  have huser : (identityOn p caller request.requested).user = caller.user := user_resolved.1
  rw [outcome_attach]
  constructor
  · intro hout
    split at hout
    · next hd hp =>
      cases hout
      exact .nothing hd hp
    · next value hd hp =>
      obtain ⟨d, hstage, rfl⟩ := map_eq_ok.mp hout
      obtain ⟨hrole, hid, hgrant⟩ := (attachDelegation_eq_ok h).mp (mapError_eq_ok.mp hstage)
      rw [huser] at hgrant
      exact .delegation ⟨hp, ⟨value, hd, hid⟩, (hasRole_identityOn.mp hrole).1, hgrant⟩
    · next value hd hp =>
      obtain ⟨s, hstage, rfl⟩ := map_eq_ok.mp hout
      obtain ⟨hid, hdomain, hgrant⟩ := (attachProvider_eq_ok h).mp (mapError_eq_ok.mp hstage)
      rw [huser] at hgrant
      exact .provider ⟨hd, ⟨value, hp, hid⟩, hdomain, hgrant⟩
    · cases hout
  · intro hatt
    cases hatt with
    | nothing hd hp => rw [hd, hp]
    | @delegation d hunder =>
      obtain ⟨hp, ⟨value, hd, hid⟩, hreq, g, hmem, hdelegate, hg⟩ := hunder
      -- The grant that is named is what makes the caller a delegate in the first place.
      have hrole : (identityOn p caller request.requested).hasRole .delegate = true :=
        hasRole_identityOn.mpr ⟨hreq, ⟨g, true⟩, hmem, rfl, hdelegate⟩
      have hout := (attachDelegation_eq_ok h).mpr
        ⟨hrole, hid, g, hmem, hdelegate.trans huser.symm, hg⟩
      rw [hd, hp]
      exact map_eq_ok.mpr ⟨d, mapError_eq_ok.mpr hout, rfl⟩
    | @provider s hfor =>
      obtain ⟨hd, ⟨value, hp, hid⟩, hdomain, g, hmem, hdelegate, hg⟩ := hfor
      have hout := (attachProvider_eq_ok h).mpr
        ⟨hid, hdomain, g, hmem, hdelegate.trans huser.symm, hg⟩
      rw [hd, hp]
      exact map_eq_ok.mpr ⟨s, mapError_eq_ok.mpr hout, rfl⟩

/-- When nothing can be attached for a header, the caller is told why. -/
theorem attach_error (h : p.StoreAnswers) {identity : Identity} {r : Refusal}
    (hr : Stage.outcome p.answer (attach p.policy identity request.headers) = .error r) :
    IsActingFault r := by
  rw [outcome_attach] at hr
  split at hr
  · cases hr
  · obtain ⟨r, hstage, rfl⟩ := mapError_eq_error.mp (map_eq_error.mp hr)
    exact isActingFault_told (attachDelegation_error h hstage)
  · obtain ⟨r, hstage, rfl⟩ := mapError_eq_error.mp (map_eq_error.mp hr)
    exact isActingFault_told (attachProvider_error h hstage)
  · cases hr
    exact ⟨.bothHeaders, rfl⟩

end Admission

end Gatehouse
