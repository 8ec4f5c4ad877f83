import Gatehouse.Proofs.Admission
import Gatehouse.Proofs.Handling

/-!
# What others have stored makes no difference

Handling a request looks at very little of a store: the credential under the client id that is
presented, and the roles and active grants of the caller. Two stores that agree on these
(`Memory.AgreeFor`) answer every call of the request alike (`answer_eq_of_agree`), and a run whose
calls are answered alike is the same run. So nothing that is stored about other users shows in what
a caller is told or in what is logged of its request (`isolated`).
-/

namespace Gatehouse

/-! ## Stores that agree on a user -/

namespace Store.Memory

/-- Two stores have the same rows of roles and the same active grants for a user, and the same
credential under the client id that a request presents, if it does. -/
structure AgreeFor (m m' : Memory) (user : Uuid) (credential : Credential) : Prop where
  roles : ∀ row : RoleRow, row.user = user → (row ∈ m.roleRows ↔ row ∈ m'.roleRows)
  grants : ∀ g : DelegationGrant, g.delegate = user →
    (⟨g, true⟩ ∈ m.delegations ↔ ⟨g, true⟩ ∈ m'.delegations)
  clients : ∀ id secret, credential = .client id secret → ∀ c : ClientCredential,
    Uuid.parse? id = some c.client → (c ∈ m.clients ↔ c ∈ m'.clients)

variable {m m' : Memory} {user : Uuid} {credential : Credential}

theorem AgreeFor.mem_approvedRows (h : m.AgreeFor m' user credential) {role : Role} {row : RoleRow} :
    row ∈ m.approvedRows user role ↔ row ∈ m'.approvedRows user role := by
  rw [Memory.mem_approvedRows, Memory.mem_approvedRows]
  constructor
  · rintro ⟨hrow, huser, hrest⟩
    exact ⟨(h.roles row huser).mp hrow, huser, hrest⟩
  · rintro ⟨hrow, huser, hrest⟩
    exact ⟨(h.roles row huser).mpr hrow, huser, hrest⟩

theorem AgreeFor.mem_activeGrants (h : m.AgreeFor m' user credential) {g : DelegationGrant} :
    g ∈ m.activeGrants user ↔ g ∈ m'.activeGrants user := by
  rw [Memory.mem_activeGrants, Memory.mem_activeGrants]
  exact and_congr_left fun huser => h.grants g huser

theorem AgreeFor.isDelegate (h : m.AgreeFor m' user credential) :
    m.isDelegate user = m'.isDelegate user := by
  have hgrant : ∀ m : Memory, m.isDelegate user = true ↔ ∃ g, g ∈ m.activeGrants user := by
    intro m
    rw [isDelegate_iff]
    constructor
    · rintro ⟨⟨g, active⟩, hrow, hactive, huser⟩
      dsimp only at hactive
      subst hactive
      exact ⟨g, Memory.mem_activeGrants.mpr ⟨hrow, huser⟩⟩
    · rintro ⟨g, hg⟩
      obtain ⟨hrow, huser⟩ := Memory.mem_activeGrants.mp hg
      exact ⟨_, hrow, rfl, huser⟩
  rw [Bool.eq_iff_iff, hgrant, hgrant]
  exact exists_congr fun g => h.mem_activeGrants

theorem AgreeFor.grantedOn (h : m.AgreeFor m' user credential) (role : Role) :
    m.grantedOn user role = m'.grantedOn user role := by
  have htable : ∀ role, role ≠ .delegate → role ≠ .cosAdmin →
      m.grantedOn user role = m'.grantedOn user role := by
    intro role hd hc
    have hempty : (m.approvedRows user role).isEmpty = (m'.approvedRows user role).isEmpty := by
      rw [← Bool.not_inj_iff, Bool.eq_iff_iff]
      simp only [Bool.not_eq_eq_eq_not, Bool.not_true, List.isEmpty_eq_false_iff_exists_mem]
      exact exists_congr fun row => h.mem_approvedRows
    have hurls : TextSet.ofList ((m.approvedRows user role).filterMap (·.url)) =
        TextSet.ofList ((m'.approvedRows user role).filterMap (·.url)) := by
      refine TextSet.ext_mem fun url => ?_
      rw [TextSet.mem_ofList, TextSet.mem_ofList, List.mem_filterMap, List.mem_filterMap]
      exact exists_congr fun row => and_congr_left fun _ => h.mem_approvedRows
    rw [grantedOn_of_table hd hc, grantedOn_of_table hd hc, hempty, hurls]
  cases role with
  | cosAdmin => rfl
  | delegate =>
    unfold Memory.grantedOn
    rw [h.isDelegate]
  | admin => exact htable _ (by decide) (by decide)
  | provider => exact htable _ (by decide) (by decide)
  | consumer => exact htable _ (by decide) (by decide)

theorem AgreeFor.grantedRoles (h : m.AgreeFor m' user credential) (requested : RoleSet) :
    m.grantedRoles user requested = m'.grantedRoles user requested := by
  refine PerRole.ext_get fun role => ?_
  rw [get_grantedRoles, get_grantedRoles, h.grantedOn]

theorem AgreeFor.grantById (h : m.AgreeFor m' user credential) (id : Uuid) :
    m.grantById id user = m'.grantById id user := by
  refine Option.ext fun g => ?_
  rw [grantById_eq_some, grantById_eq_some]
  constructor
  · rintro ⟨hrow, huser, hid⟩
    exact ⟨(h.grants g huser).mp hrow, huser, hid⟩
  · rintro ⟨hrow, huser, hid⟩
    exact ⟨(h.grants g huser).mpr hrow, huser, hid⟩

theorem AgreeFor.providerGrant (h : m.AgreeFor m' user credential) (provider : Uuid)
    (trustDomain : String) :
    m.providerGrant user provider trustDomain = m'.providerGrant user provider trustDomain := by
  unfold Memory.providerGrant
  refine leastGrant?_congr (fun g => ?_) ?_
  · rw [List.mem_filter, List.mem_filter, h.mem_activeGrants]
  · exact (List.filter_sublist.map _).nodup (m.nodup_activeGrants user)

end Store.Memory

/-! ## Calls that are answered alike -/

open Store

/-- Questions that are answered alike are the same questions with the same result. -/
theorem Dialogue.answered_congr {Q : Type} {A : Q → Type} {α : Type} {f g : (q : Q) → A q}
    {d : Dialogue Q A α} (h : ∀ q ∈ d.asked f, g q = f q) :
    d.answered g = d.answered f ∧ d.asked g = d.asked f := by
  induction d with
  | done a => exact ⟨rfl, rfl⟩
  | ask q next ih =>
    have hq : g q = f q := h q List.mem_cons_self
    obtain ⟨hresult, hasked⟩ := ih (f q) fun q' hq' => h q' (List.mem_cons_of_mem q hq')
    unfold Dialogue.answered Dialogue.asked
    rw [hq]
    exact ⟨hresult, congrArg (q :: ·) hasked⟩

namespace Platform

/-- The platform with another store. -/
def withMemory (p : Platform) (m : Memory) : Platform := { p with memory := m }

variable {p : Platform} {other : Memory}

/-- Where another store takes the same time and answers the calls of a run alike, the run is the
same at every moment. -/
theorem proceed_congr {α : Type} (hlatency : other.latency = p.memory.latency) {d : Exchange α}
    (h : ∀ c ∈ d.asked p.answer, (p.withMemory other).answer c = p.answer c)
    (within : Nat → Bool) (now : Nat) :
    Run.proceed (p.withMemory other).surroundings within now d =
      Run.proceed p.surroundings within now d := by
  have hdelay : (p.withMemory other).surroundings.delay = p.surroundings.delay := by
    funext c
    cases c with
    | provider call => rfl
    | store call => exact hlatency
  have hlimit : (p.withMemory other).surroundings.limit = p.surroundings.limit := rfl
  induction d generalizing now with
  | done a => rfl
  | ask c next ih =>
    have hwait : (p.withMemory other).surroundings.wait c = p.surroundings.wait c := by
      unfold Surroundings.wait
      rw [hdelay, hlimit]
    have hlate : (p.withMemory other).surroundings.isLate c = p.surroundings.isLate c := by
      unfold Surroundings.isLate
      rw [hdelay, hlimit]
    have houtcome := (p.withMemory other).outcome_eq c
    rw [hlate, h c List.mem_cons_self] at houtcome
    simp only [Run.proceed, hwait, hlate, houtcome, p.outcome_eq c]
    rw [ih (p.answer c) fun c' hc' => h c' (List.mem_cons_of_mem c hc')]

end Platform

namespace Admission

variable {p : Platform} {request : Request} {caller : Principal} {other : Memory}

/-- Storage is asked for nothing but the client that is presented and what it has about the
caller. -/
theorem calls_confined (h : p.authenticated request = .ok (some caller)) :
    ∀ c ∈ p.calls request, (∃ call, c = .provider call) ∨
      (∃ id secret client, .ofHeaders request.headers = Credential.client id secret ∧
        Uuid.parse? id = some client ∧ c = .store (.client client)) ∨
      IsAbout p.policy request.requested caller.user c := by
  rw [p.calls_eq]
  unfold identify
  refine Stage.forall_calls_bind _ ?_ fun found hfound => ?_
  · intro c hc
    unfold authenticate at hc
    cases hcredential : Credential.ofHeaders request.headers with
    | bearer token =>
      rw [hcredential, Stage.calls_map] at hc
      exact Or.inl (Authentication.calls_byToken c hc)
    | client id secret =>
      rw [hcredential, Stage.calls_map] at hc
      obtain ⟨client, hid, rfl⟩ := Authentication.mem_calls_byClient.mp hc
      exact Or.inr (Or.inl ⟨id, secret, client, rfl, hid, rfl⟩)
    | absent =>
      rw [hcredential] at hc
      cases hb : request.bootstrap with
      | true =>
        rw [hb] at hc
        cases hc
      | false =>
        rw [hb] at hc
        cases hc
  · cases h.symm.trans hfound
    intro c hc
    rw [Stage.calls_map] at hc
    exact Or.inr (Or.inr (calls_authorize c hc))

/-- A store that agrees on the caller answers every call of its request alike. -/
theorem answer_eq_of_agree (hp : p.StoreAnswers) (hother : (p.withMemory other).StoreAnswers)
    (hagree : p.memory.AgreeFor other caller.user (.ofHeaders request.headers))
    (hcaller : p.authenticated request = .ok (some caller)) :
    ∀ c ∈ p.calls request, (p.withMemory other).answer c = p.answer c := by
  have hstore : ∀ call : StoreCall, p.memory.find call = other.find call →
      (p.withMemory other).answer (.store call) = p.answer (.store call) := by
    intro call hfind
    change (p.withMemory other).storeAnswer call = p.storeAnswer call
    rw [Platform.storeAnswer_eq hp, Platform.storeAnswer_eq hother, hfind]
    rfl
  intro c hc
  rcases calls_confined hcaller c hc with
    ⟨call, rfl⟩ | ⟨id, secret, client, hcredential, hid, rfl⟩ |
      rfl | ⟨id, rfl⟩ | ⟨provider, rfl⟩
  · rfl
  · refine hstore _ (Option.ext fun record => ?_)
    change p.memory.clientById client = some record ↔ other.clientById client = some record
    rw [Memory.clientById_eq_some, Memory.clientById_eq_some]
    refine and_congr_left fun hclient => hagree.clients id secret hcredential record ?_
    rw [hid, hclient]
  · exact hstore _ (hagree.grantedRoles _)
  · exact hstore _ (hagree.grantById id)
  · exact hstore _ (hagree.providerGrant provider _)

/-- A request of a user comes to the same verdict on any two stores that answer and agree on that
user, with the same calls; and it is responded to and logged in the same way, as long as the two
take the same time or neither lets the request be cut off. -/
theorem isolated (p : Platform) (other : Memory) (request : Request) (caller : Principal)
    (hp : p.StoreAnswers) (hother : (p.withMemory other).StoreAnswers)
    (hagree : p.memory.AgreeFor other caller.user (.ofHeaders request.headers))
    (hcaller : p.authenticated request = .ok (some caller)) :
    (p.withMemory other).verdict request = p.verdict request ∧
    (p.withMemory other).calls request = p.calls request ∧
    ∀ within now respond,
      (other.latency = p.memory.latency ∨
        p.EndsWithin within now request ∧ (p.withMemory other).EndsWithin within now request) →
      (p.withMemory other).respond within now (.guarded request respond) =
        p.respond within now (.guarded request respond) := by
  have hanswer := answer_eq_of_agree hp hother hagree hcaller
  obtain ⟨hverdict, hcalls⟩ : (p.withMemory other).verdict request = p.verdict request ∧
      (p.withMemory other).calls request = p.calls request := Dialogue.answered_congr hanswer
  refine ⟨hverdict, hcalls, fun within now respond hin => ?_⟩
  have hend : (p.withMemory other).endOf within now request = p.endOf within now request := by
    rcases hin with hlatency | ⟨hends, hends'⟩
    · have hrun := Platform.proceed_congr hlatency hanswer within now
      unfold Platform.endOf Platform.runWithin Run.follow
      dsimp only
      rw [show (p.withMemory other).policy = p.policy from rfl, hrun]
    · rw [Platform.endOf_of_ends hends, Platform.endOf_of_ends hends']
      unfold Platform.result
      rw [hverdict]
  rw [Platform.respond_guarded, Platform.respond_guarded, hend]

/-- A store with more in it: another user's role, a delegation to another user, and one to the user
7 that has been revoked. -/
def crowdedMemory : Memory :=
  ((((Memory.insertDelegation {} ⟨⟨1⟩, ⟨5⟩, ⟨7⟩, .provider, "https://AS.example/"⟩).insertDelegation
    ⟨⟨2⟩, ⟨5⟩, ⟨8⟩, .provider, "https://as.example"⟩).insertDelegation
      ⟨⟨3⟩, ⟨6⟩, ⟨7⟩, .consumer, "https://rs.example"⟩).revokeDelegation ⟨3⟩).grantRole ⟨8⟩ .admin none

/-- The user 7 is told the same, and the same is logged, whatever else the store holds. -/
theorem isolated_crowded :
    lendingPlatform.memory.AgreeFor crowdedMemory ⟨7⟩ (.ofHeaders delegateRequest.headers) ∧
    (lendingPlatform.withMemory crowdedMemory).verdict delegateRequest =
      lendingPlatform.verdict delegateRequest ∧
    ∀ respond,
      (lendingPlatform.withMemory crowdedMemory).respond (· < 30000) 0
          (.guarded delegateRequest respond) =
        lendingPlatform.respond (· < 30000) 0 (.guarded delegateRequest respond) := by
  have hcaller : lendingPlatform.authenticated delegateRequest =
      .ok (some ⟨⟨7⟩, some ⟨"Given", "Family"⟩, .bearerToken⟩) := by cbv
  have hagree : lendingPlatform.memory.AgreeFor crowdedMemory ⟨7⟩
      (.ofHeaders delegateRequest.headers) := by
    have hroles : crowdedMemory.roleRows = [⟨⟨8⟩, .admin, none, true⟩] := rfl
    have hgrants : crowdedMemory.delegations =
        [⟨⟨⟨3⟩, ⟨6⟩, ⟨7⟩, .consumer, "https://rs.example"⟩, false⟩,
          ⟨⟨⟨2⟩, ⟨5⟩, ⟨8⟩, .provider, "https://as.example"⟩, true⟩,
          ⟨⟨⟨1⟩, ⟨5⟩, ⟨7⟩, .provider, "https://AS.example/"⟩, true⟩] := by decide
    have hfew : lendingPlatform.memory.delegations =
        [⟨⟨⟨1⟩, ⟨5⟩, ⟨7⟩, .provider, "https://AS.example/"⟩, true⟩] := rfl
    constructor
    · intro row hrow
      rw [hroles, List.mem_singleton]
      constructor
      · rintro ⟨⟩
      · rintro rfl
        exact absurd hrow (by decide)
    · intro g hg
      rw [hgrants, hfew]
      simp only [List.mem_cons, List.not_mem_nil, or_false, DelegationRow.mk.injEq,
        Bool.true_eq_false, and_false, false_or, and_true]
      constructor
      · exact Or.inr
      · rintro (rfl | rfl)
        · exact absurd hg (by decide)
        · rfl
    · intro id secret _ c _
      exact Iff.rfl
  obtain ⟨hverdict, -, hrespond⟩ :=
    isolated _ _ _ _ ⟨rfl, Nat.zero_le _⟩ ⟨rfl, Nat.zero_le _⟩ hagree hcaller
  exact ⟨hagree, hverdict, fun respond => hrespond _ _ respond (Or.inl rfl)⟩

end Admission

end Gatehouse
