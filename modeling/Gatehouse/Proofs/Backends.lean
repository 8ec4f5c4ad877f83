import Gatehouse.Proofs.Relational
import Gatehouse.Store.Memory
import Mathlib

/-!
# The two stores agree

A store in memory that holds what the tables of a database hold (`Tables.HeldBy`) answers every call
as the store in that database does, in whatever order either of them keeps its rows
(`answered_eq_find`). For a client and for a delegation the row that is read is the one that memory
finds; for roles, both sides come to what the tables give to the user (`Relational.Gives`).
-/

namespace Gatehouse

theorem Role.ofName?_eq_some {s : String} {r : Role} : Role.ofName? s = some r ↔ r.name = s := by
  constructor
  · intro h
    simpa using List.find?_some h
  · rintro rfl
    cases r <;> rfl

theorem Role.parse?_name (r : Role) : Role.parse? r.name = some r := by
  cases r <;> decide +kernel

theorem SecretAlgorithm.ofTag?_eq_some {s : String} {a : SecretAlgorithm} :
    SecretAlgorithm.ofTag? s = some a ↔ a.tag = s := by
  cases a
  simp [SecretAlgorithm.ofTag?, SecretAlgorithm.tag, eq_comm]

end Gatehouse

namespace Gatehouse.Store

/-! ## Contents of the tables in memory -/

/-- The entry for a row of roles, if it names a role. -/
def RoleRecord.row? (t : Tables) (r : RoleRecord) : Option RoleRow :=
  (Role.ofName? r.role).map fun role =>
    ⟨r.user, role, r.server.bind t.urlOf, r.status == approvedStatus⟩

/-- The entry for a row of clients, if it names an algorithm. -/
def ClientRecord.credential? (c : ClientRecord) : Option ClientCredential :=
  (SecretAlgorithm.ofTag? c.algorithm).map fun a => ⟨c.id, c.owner, c.secretHash, a⟩

/-- The entry for a row of delegations, if it names a role. -/
def DelegationRecord.row? (t : Tables) (d : DelegationRecord) : Option DelegationRow :=
  (Role.ofName? d.role).bind fun role =>
    (t.urlOf d.server).map fun url =>
      ⟨⟨d.id, d.delegator, d.delegate, role, url⟩, d.status == activeStatus⟩

namespace Tables

/-- A store in memory holds what the tables hold. The order of rows is of no account, and neither is
how often a row of roles is there. -/
structure HeldBy (t : Tables) (m : Memory) : Prop where
  roles : ∀ row, row ∈ m.roleRows ↔ row ∈ t.roles.filterMap (·.row? t)
  clients : ∀ c, c ∈ m.clients ↔ c ∈ t.clients.filterMap (·.credential?)
  delegations : ∀ row, row ∈ m.delegations ↔ row ∈ t.delegations.filterMap (·.row? t)

/-- The texts in the place of an algorithm or of the role of a delegation are names of one. A row of
roles with any other text is found by neither store. -/
structure IsCanonical (t : Tables) : Prop where
  clients : ∀ c ∈ t.clients, ∃ a : SecretAlgorithm, a.tag = c.algorithm
  delegations : ∀ d ∈ t.delegations, ∃ role : Role, role.name = d.role

end Tables

variable {t : Tables} {m : Memory} {database : Statement → Reply}

namespace Tables.HeldBy

theorem isApproved (h : t.HeldBy m) {user : Uuid} {role : Role} :
    m.IsApproved user role ↔
      ∃ r ∈ t.roles, r.user = user ∧ r.role = role.name ∧ r.status = approvedStatus := by
  simp only [Memory.IsApproved, h.roles, List.mem_filterMap, RoleRecord.row?,
    Option.map_eq_some_iff, Role.ofName?_eq_some]
  constructor
  · rintro ⟨_, ⟨r, hr, role, hrole, rfl⟩, rfl, rfl, happroved⟩
    exact ⟨r, hr, rfl, hrole.symm, by simpa using happroved⟩
  · rintro ⟨r, hr, rfl, hrole, happroved⟩
    exact ⟨_, ⟨r, hr, role, hrole.symm, rfl⟩, rfl, rfl, by simpa using happroved⟩

theorem isApprovedOn (h : t.HeldBy m) {user : Uuid} {role : Role} {url : String} :
    m.IsApprovedOn user role url ↔
      ∃ r ∈ t.roles, r.user = user ∧ r.role = role.name ∧ r.status = approvedStatus ∧
        r.server.bind t.urlOf = some url := by
  simp only [Memory.IsApprovedOn, h.roles, List.mem_filterMap, RoleRecord.row?,
    Option.map_eq_some_iff, Role.ofName?_eq_some]
  constructor
  · rintro ⟨_, ⟨r, hr, role, hrole, rfl⟩, rfl, rfl, happroved, hurl⟩
    exact ⟨r, hr, rfl, hrole.symm, by simpa using happroved, hurl⟩
  · rintro ⟨r, hr, rfl, hrole, happroved, hurl⟩
    exact ⟨_, ⟨r, hr, role, hrole.symm, rfl⟩, rfl, rfl, by simpa using happroved, hurl⟩

theorem mem_clients (h : t.HeldBy m) {c : ClientCredential} :
    c ∈ m.clients ↔ ∃ r ∈ t.clients, ∃ a : SecretAlgorithm, a.tag = r.algorithm ∧
      ⟨r.id, r.owner, r.secretHash, a⟩ = c := by
  simp only [h.clients, List.mem_filterMap, ClientRecord.credential?, Option.map_eq_some_iff,
    SecretAlgorithm.ofTag?_eq_some]

theorem isDelegate (h : t.HeldBy m) (hc : t.IsCanonical) {user : Uuid} :
    m.IsDelegate user ↔ ∃ d ∈ t.delegations, d.delegate = user ∧ d.status = activeStatus := by
  simp only [Memory.IsDelegate, h.delegations, List.mem_filterMap, DelegationRecord.row?,
    Option.bind_eq_some_iff, Option.map_eq_some_iff, Role.ofName?_eq_some]
  constructor
  · rintro ⟨_, ⟨d, hd, role, -, url, -, rfl⟩, hactive, rfl⟩
    exact ⟨d, hd, rfl, by simpa using hactive⟩
  · rintro ⟨d, hd, rfl, hactive⟩
    obtain ⟨role, hrole⟩ := hc.delegations d hd
    obtain ⟨s, hs⟩ := exists_serverOf (t.delegations_server d hd)
    exact ⟨_, ⟨d, hd, role, hrole, s.url, by rw [urlOf, hs]; rfl, rfl⟩, by simpa using hactive, rfl⟩

theorem mem_delegations (h : t.HeldBy m) {g : DelegationGrant} :
    ⟨g, true⟩ ∈ m.delegations ↔ ∃ d ∈ t.delegations, ∃ role : Role, ∃ s, role.name = d.role ∧
      t.serverOf d.server = some s ∧ d.status = activeStatus ∧
        ⟨d.id, d.delegator, d.delegate, role, s.url⟩ = g := by
  simp only [h.delegations, List.mem_filterMap, DelegationRecord.row?, Option.bind_eq_some_iff,
    Option.map_eq_some_iff, Role.ofName?_eq_some, urlOf, DelegationRow.mk.injEq, beq_iff_eq]
  constructor
  · rintro ⟨d, hd, role, hrole, _, ⟨s, hs, rfl⟩, hg, hactive⟩
    exact ⟨d, hd, role, s, hrole, hs, hactive, hg⟩
  · rintro ⟨d, hd, role, s, hrole, hs, hactive, hg⟩
    exact ⟨d, hd, role, hrole, _, ⟨s, hs, rfl⟩, hg, hactive⟩

end Tables.HeldBy

/-! ## Answers -/

namespace Relational

theorem answered_fetch (hreplied : t.RepliedBy database) {α : Type} (s : Statement)
    (read : List Row → Except StoreFault α) :
    ∃ rows, s.Yields t rows ∧ (fetch s read).answered database = read rows := by
  obtain ⟨rows, hrows, hyields⟩ := hreplied s
  refine ⟨rows, hyields, ?_⟩
  unfold fetch Dialogue.answered
  rw [hrows]
  rfl

/-- What is read of a first row is what it should be when that holds of every row, and there are
rows wherever there should be. -/
theorem firstRow_eq_ok {α : Type} {read : Row → Except StoreFault α} {rows : List Row}
    {expected : Option α} (hread : ∀ row ∈ rows, (read row).map some = .ok expected)
    (hrows : ∀ a, expected = some a → ∃ row, row ∈ rows) : firstRow read rows = .ok expected := by
  cases rows with
  | nil =>
    have hnone : expected = none := by
      refine Option.eq_none_iff_forall_ne_some.mpr fun a ha => ?_
      obtain ⟨row, hrow⟩ := hrows a ha
      cases hrow
    rw [hnone]
    rfl
  | cons row rows => exact hread row List.mem_cons_self

theorem answered_clientById (hcanonical : t.IsCanonical) (hheld : t.HeldBy m)
    (hreplied : t.RepliedBy database) (id : Uuid) :
    (clientById id).answered database = .ok (m.clientById id) := by
  obtain ⟨rows, hyields, hrows⟩ := answered_fetch hreplied (clientStatement id) (firstRow clientOf)
  refine hrows.trans (firstRow_eq_ok (fun row hrow => ?_) fun found hfound => ?_)
  · obtain ⟨c, hc, hid, rfl⟩ := (mem_of_yields_client hyields).mp hrow
    obtain ⟨a, ha⟩ := hcanonical.clients c hc
    rw [clientOf_clientRow (SecretAlgorithm.ofTag?_eq_some.mpr ha),
      Memory.clientById_eq_some.mpr ⟨hheld.mem_clients.mpr ⟨c, hc, a, ha, rfl⟩, hid⟩]
    rfl
  · obtain ⟨hmem, hid⟩ := Memory.clientById_eq_some.mp hfound
    obtain ⟨c, hc, a, -, rfl⟩ := hheld.mem_clients.mp hmem
    exact ⟨_, (mem_of_yields_client hyields).mpr ⟨c, hc, hid, rfl⟩⟩

theorem answered_grantById (hcanonical : t.IsCanonical) (hheld : t.HeldBy m)
    (hreplied : t.RepliedBy database) (id delegate : Uuid) :
    (grantById id delegate).answered database = .ok (m.grantById id delegate) := by
  obtain ⟨rows, hyields, hrows⟩ :=
    answered_fetch hreplied (grantStatement id delegate) (firstRow grantOf)
  refine hrows.trans (firstRow_eq_ok (fun row hrow => ?_) fun found hfound => ?_)
  · obtain ⟨d, hd, s, hs, ⟨hid, hto, hactive⟩, rfl⟩ := (mem_of_yields_grant hyields).mp hrow
    obtain ⟨role, hrole⟩ := hcanonical.delegations d hd
    have hmem := hheld.mem_delegations.mpr ⟨d, hd, role, s, hrole, hs, hactive, rfl⟩
    rw [grantOf_grantRow (hrole ▸ role.parse?_name), Memory.grantById_eq_some.mpr ⟨hmem, hto, hid⟩]
    rfl
  · obtain ⟨hmem, hto, hid⟩ := Memory.grantById_eq_some.mp hfound
    obtain ⟨d, hd, role, s, -, hs, hactive, rfl⟩ := hheld.mem_delegations.mp hmem
    exact ⟨_, (mem_of_yields_grant hyields).mpr ⟨d, hd, s, hs, ⟨hid, hto, hactive⟩, rfl⟩⟩

/-- The rows that the statement about the trust domain chooses from are those of the grants that
memory chooses from. -/
theorem isProviderGrant_iff (hheld : t.HeldBy m) {delegate provider : Uuid} {trustDomain : String}
    {g : DelegationGrant} :
    m.IsProviderGrant delegate provider trustDomain g ↔
      ∃ d s, IsProviderGrant t delegate provider trustDomain d s ∧
        ⟨d.id, d.delegator, d.delegate, .provider, s.url⟩ = g := by
  constructor
  · rintro ⟨hmem, hto, hfrom, hprovider, hurl⟩
    obtain ⟨d, hd, role, s, hrole, hs, hactive, rfl⟩ := hheld.mem_delegations.mp hmem
    dsimp only at hprovider
    subst hprovider
    exact ⟨d, s, ⟨hd, hs, hto, hfrom, hrole.symm, hactive, hurl⟩, rfl⟩
  · rintro ⟨d, s, h, rfl⟩
    exact ⟨hheld.mem_delegations.mpr ⟨d, h.mem, .provider, s, h.role_eq.symm, h.server, h.active,
      rfl⟩, h.delegate_eq, h.delegator_eq, rfl, h.isTrustDomain⟩

theorem isSome_providerGrant_iff (hheld : t.HeldBy m) {delegate provider : Uuid}
    {trustDomain : String} :
    (m.providerGrant delegate provider trustDomain).isSome = true ↔
      ∃ d s, IsProviderGrant t delegate provider trustDomain d s := by
  rw [Memory.isSome_providerGrant]
  constructor
  · rintro ⟨g, hmem, hto, hfrom, hrole, hurl⟩
    obtain ⟨d, s, h, -⟩ := (isProviderGrant_iff hheld).mp ⟨hmem, hto, hfrom, hrole, hurl⟩
    exact ⟨d, s, h⟩
  · rintro ⟨d, s, h⟩
    obtain ⟨hmem, hto, hfrom, hrole, hurl⟩ := (isProviderGrant_iff hheld).mpr ⟨d, s, h, rfl⟩
    exact ⟨_, hmem, hto, hfrom, hrole, hurl⟩

/-- The store in the database finds a grant that lets the delegate act for the provider, the one
with the smallest id, or there is none. -/
theorem providerGrant_cases (hreplied : t.RepliedBy database) (delegate provider : Uuid)
    (trustDomain : String) :
    ((providerGrant delegate provider trustDomain).answered database = .ok none ∧
      ∀ d s, ¬ IsProviderGrant t delegate provider trustDomain d s) ∨
    ∃ d s, IsProviderGrant t delegate provider trustDomain d s ∧
      (providerGrant delegate provider trustDomain).answered database =
        .ok (some ⟨d.id, d.delegator, d.delegate, .provider, s.url⟩) ∧
      ∀ d' s', IsProviderGrant t delegate provider trustDomain d' s' →
        d.id.bits.toNat ≤ d'.id.bits.toNat := by
  obtain ⟨rows, hyields, hrows⟩ := answered_fetch hreplied
    (providerGrantStatement delegate provider trustDomain) (firstRow grantOf)
  rcases rows_of_yields_providerGrant hyields with ⟨rfl, hnone⟩ | ⟨d, s, hg, rfl, hleast⟩
  · exact Or.inl ⟨hrows, hnone⟩
  · refine Or.inr ⟨d, s, hg, hrows.trans ?_, hleast⟩
    rw [firstRow, grantOf_grantRow (hg.role_eq ▸ Role.parse?_name .provider)]
    rfl

/-- What the store in the database finds is on the trust domain. -/
theorem same_of_providerGrant (hreplied : t.RepliedBy database) {delegate provider : Uuid}
    {trustDomain : String} {g : DelegationGrant}
    (h : (providerGrant delegate provider trustDomain).answered database = .ok (some g)) :
    ServerUrl.same g.url trustDomain = true := by
  rcases providerGrant_cases hreplied delegate provider trustDomain with
    ⟨hnone, -⟩ | ⟨d, s, hg, hsome, -⟩
  · rw [hnone] at h
    cases h
  · rw [hsome] at h
    cases h
    exact ServerUrl.same_iff.mpr hg.isTrustDomain

theorem answered_providerGrant (hheld : t.HeldBy m) (hreplied : t.RepliedBy database)
    (delegate provider : Uuid) (trustDomain : String) :
    (providerGrant delegate provider trustDomain).answered database =
      .ok (m.providerGrant delegate provider trustDomain) := by
  rcases providerGrant_cases hreplied delegate provider trustDomain with
    ⟨hanswered, hnone⟩ | ⟨d, s, hg, hanswered, hleast⟩
  · have hfound : m.providerGrant delegate provider trustDomain = none := by
      refine Option.not_isSome_iff_eq_none.mp fun hsome => ?_
      obtain ⟨d, s, h⟩ := (isSome_providerGrant_iff hheld).mp hsome
      exact hnone d s h
    rw [hanswered, hfound]
  · have hfound := Memory.providerGrant_of_least ((isProviderGrant_iff hheld).mpr ⟨d, s, hg, rfl⟩)
      fun g' hg' => by
        obtain ⟨d', s', h, rfl⟩ := (isProviderGrant_iff hheld).mp hg'
        exact hleast d' s' h
    rw [hanswered, hfound]

/-! ### Roles -/

/-- What the tables hold gives a role to a user, on a resource server or on none. -/
def Gives (t : Tables) (user : Uuid) (role : Role) (url : Option String) : Prop :=
  (RoleQuery.isGranted role = true ∧ ∃ r ∈ t.roles, r.user = user ∧ r.role = role.name ∧
      r.status = approvedStatus ∧ r.server.bind t.urlOf = url) ∨
    (role = .delegate ∧ url = none ∧
      ∃ d ∈ t.delegations, d.delegate = user ∧ d.status = activeStatus)

theorem mem_granted_plan {user : Uuid} {requested : RoleSet} {role : Role} :
    role ∈ (RoleQuery.plan user requested).granted ↔
      requested.contains role = true ∧ RoleQuery.isGranted role = true := by
  simp [RoleQuery.plan, RoleSet.toList, role.mem_all, and_comm]

/-- The rows that the statement about roles yields name what the tables give. -/
theorem mem_rows_iff_gives {user : Uuid} {requested : RoleSet} {rows : List Row}
    (hyields : (RoleQuery.plan user requested).statement.Yields t rows) {row : Row} :
    row ∈ rows ↔ ∃ role url, requested.contains role = true ∧ Gives t user role url ∧
      row = roleRow role.name url := by
  rw [mem_of_yields_roles hyields, mem_rows_grantedPart, mem_rows_delegatePart]
  constructor
  · rintro (⟨r, hr, huser, hstatus, ⟨role, hrole, hname⟩, rfl⟩ | ⟨hdelegate, hd, rfl⟩)
    · obtain ⟨hrequested, hgranted⟩ := mem_granted_plan.mp hrole
      exact ⟨role, _, hrequested, Or.inl ⟨hgranted, r, hr, huser, hname.symm, hstatus, rfl⟩,
        by rw [hname]⟩
    · exact ⟨.delegate, none, hdelegate, Or.inr ⟨rfl, rfl, hd⟩, rfl⟩
  · rintro ⟨role, url, hrequested,
      ⟨hgranted, r, hr, huser, hname, hstatus, rfl⟩ | ⟨rfl, rfl, hd⟩, rfl⟩
    · exact Or.inl ⟨r, hr, huser, hstatus, ⟨role, mem_granted_plan.mpr ⟨hrequested, hgranted⟩,
        hname.symm⟩, by rw [hname]⟩
    · exact Or.inr ⟨hrequested, hd, rfl⟩

/-- The roles of a caller are read from rows that the statement about them yields, also when it is
not sent because there is nothing to ask. -/
theorem answered_grantedRoles_eq (hreplied : t.RepliedBy database) (user : Uuid)
    (requested : RoleSet) :
    ∃ rows, (RoleQuery.plan user requested).statement.Yields t rows ∧
      (grantedRoles user requested).answered database = rolesOf rows := by
  unfold grantedRoles
  dsimp only
  cases hempty : (RoleQuery.plan user requested).isEmpty with
  | false => exact answered_fetch hreplied _ _
  | true =>
    refine ⟨[], ?_, rfl⟩
    unfold RoleQuery.isEmpty at hempty
    rw [Bool.and_eq_true, Bool.not_eq_true'] at hempty
    unfold RoleQuery.statement
    rw [hempty.1, hempty.2]
    exact List.Perm.of_eq (rows_eq_nil_of_never rfl).symm

theorem isSome_grantedRoles (hheld : t.HeldBy m) (hcanonical : t.IsCanonical) {user : Uuid}
    {requested : RoleSet} {role : Role} :
    ((m.grantedRoles user requested).get role).isSome = true ↔
      requested.contains role = true ∧ ∃ url, Gives t user role url := by
  have hgives : (m.grantedOn user role).isSome = true ↔ ∃ url, Gives t user role url := by
    rw [Memory.isSome_grantedOn]
    unfold Gives
    cases role <;> simp [RoleQuery.isGranted, hheld.isApproved, hheld.isDelegate hcanonical]
  rw [Memory.get_grantedRoles, ← hgives]
  cases requested.contains role <;> simp

theorem lists_grantedRoles (hheld : t.HeldBy m) {user : Uuid} {requested : RoleSet} {role : Role}
    {url : String} :
    (m.grantedRoles user requested).Lists role url ↔
      role.isScoped = true ∧ requested.contains role = true ∧ Gives t user role (some url) := by
  have hscoped : role.isScoped = true → (Gives t user role (some url) ↔
      m.IsApprovedOn user role url) := by
    rw [hheld.isApprovedOn]
    unfold Gives
    cases role <;> simp [Role.isScoped, RoleQuery.isGranted]
  unfold RoleScope.Lists
  rw [Memory.get_grantedRoles]
  cases requested.contains role with
  | false => simp
  | true =>
    cases hs : role.isScoped with
    | true => simp [hscoped hs, ← Memory.mem_grantedOn hs]
    | false =>
      -- The entry of any other role is empty.
      simp only [if_true, Bool.false_eq_true, false_and, iff_false]
      rintro ⟨urls, hfound, hmem⟩
      rw [Memory.eq_empty_of_grantedOn hs hfound] at hmem
      exact TextSet.not_mem_empty hmem

theorem answered_grantedRoles (hcanonical : t.IsCanonical) (hheld : t.HeldBy m)
    (hreplied : t.RepliedBy database) (user : Uuid) (requested : RoleSet) :
    (grantedRoles user requested).answered database = .ok (m.grantedRoles user requested) := by
  obtain ⟨rows, hyields, hrows⟩ := answered_grantedRoles_eq hreplied user requested
  have hentry : ∀ role url, (∃ row ∈ rows, entryOf row = .ok (role, url)) ↔
      requested.contains role = true ∧ Gives t user role url := by
    intro role url
    constructor
    · rintro ⟨row, hrow, he⟩
      obtain ⟨role', url', hrequested, hgives, rfl⟩ := (mem_rows_iff_gives hyields).mp hrow
      rw [entryOf_roleRow role'.parse?_name] at he
      cases he
      exact ⟨hrequested, hgives⟩
    · rintro ⟨hrequested, hgives⟩
      exact ⟨_, (mem_rows_iff_gives hyields).mpr ⟨role, url, hrequested, hgives, rfl⟩,
        entryOf_roleRow role.parse?_name url⟩
  obtain ⟨granted, hgranted⟩ := exists_rolesOf fun row hrow => by
    obtain ⟨role, url, -, -, rfl⟩ := (mem_rows_iff_gives hyields).mp hrow
    exact ⟨_, entryOf_roleRow role.parse?_name url⟩
  rw [hrows, hgranted]
  refine congrArg Except.ok (RoleScope.ext_lists (fun role => ?_) fun role url => ?_)
  · rw [isSome_rolesOf hgranted, isSome_grantedRoles hheld hcanonical]
    constructor
    · rintro ⟨row, hrow, url, he⟩
      obtain ⟨hrequested, hgives⟩ := (hentry role url).mp ⟨row, hrow, he⟩
      exact ⟨hrequested, url, hgives⟩
    · rintro ⟨hrequested, url, hgives⟩
      obtain ⟨row, hrow, he⟩ := (hentry role url).mpr ⟨hrequested, hgives⟩
      exact ⟨row, hrow, url, he⟩
  · rw [lists_rolesOf hgranted, lists_grantedRoles hheld, hentry]

end Relational

/-- A store in a database answers every call as a store in memory does that holds the same rows,
whatever their order is in either of them. -/
theorem answered_eq_find (t : Tables) (m : Memory) (database : Statement → Reply)
    (hcanonical : t.IsCanonical) (hheld : t.HeldBy m) (hreplied : t.RepliedBy database)
    (havailable : m.available = true) (c : StoreCall) :
    (Relational.answer c).answered database = .ok (m.find c) ∧ m.answer c = .ok (m.find c) := by
  constructor
  · cases c with
    | roles user requested =>
      exact Relational.answered_grantedRoles hcanonical hheld hreplied user requested
    | client id => exact Relational.answered_clientById hcanonical hheld hreplied id
    | grant id delegate =>
      exact Relational.answered_grantById hcanonical hheld hreplied id delegate
    | providerGrant delegate provider trustDomain =>
      exact Relational.answered_providerGrant hheld hreplied delegate provider trustDomain
  · unfold Memory.answer
    rw [if_pos havailable]

/-- Tables with a role on a resource server, one that awaits approval and one on no server, with a
client, and with three delegations to the user 7, of which the first is not active. -/
def lendingTables : Tables where
  servers := [⟨⟨11⟩, "https://rs.example"⟩, ⟨⟨10⟩, "https://AS.example/"⟩]
  roles := [⟨⟨7⟩, "PROVIDER", some ⟨11⟩, "APPROVED"⟩, ⟨⟨7⟩, "CONSUMER", some ⟨11⟩, "PENDING"⟩,
    ⟨⟨7⟩, "ADMIN", none, "APPROVED"⟩]
  clients := [⟨⟨20⟩, ⟨7⟩, "hash", "argon2id"⟩]
  delegations := [⟨⟨1⟩, ⟨5⟩, ⟨7⟩, "PROVIDER", ⟨10⟩, "REVOKED"⟩,
    ⟨⟨9⟩, ⟨5⟩, ⟨7⟩, "PROVIDER", ⟨10⟩, "ACTIVE"⟩, ⟨⟨3⟩, ⟨5⟩, ⟨7⟩, "PROVIDER", ⟨10⟩, "ACTIVE"⟩]

/-- The same in memory, in another order. -/
def lendingMemory : Memory where
  roleRows := [⟨⟨7⟩, .admin, none, true⟩, ⟨⟨7⟩, .provider, some "https://rs.example", true⟩,
    ⟨⟨7⟩, .consumer, some "https://rs.example", false⟩]
  clients := [⟨⟨20⟩, ⟨7⟩, "hash", .argon2id⟩]
  delegations := [⟨⟨⟨3⟩, ⟨5⟩, ⟨7⟩, .provider, "https://AS.example/"⟩, true⟩,
    ⟨⟨⟨1⟩, ⟨5⟩, ⟨7⟩, .provider, "https://AS.example/"⟩, false⟩,
    ⟨⟨⟨9⟩, ⟨5⟩, ⟨7⟩, .provider, "https://AS.example/"⟩, true⟩]

/-- Both stores find the delegation with the smaller identifier, and the two approved roles. -/
theorem answered_eq_find_lending :
    (Relational.answer (.providerGrant ⟨7⟩ ⟨5⟩ "https://as.example")).answered lendingTables.reply =
      .ok (some ⟨⟨3⟩, ⟨5⟩, ⟨7⟩, .provider, "https://AS.example/"⟩) ∧
    lendingMemory.answer (.providerGrant ⟨7⟩ ⟨5⟩ "https://as.example") =
      .ok (some ⟨⟨3⟩, ⟨5⟩, ⟨7⟩, .provider, "https://AS.example/"⟩) ∧
    (Relational.answer (.roles ⟨7⟩ .full)).answered lendingTables.reply =
      .ok ⟨some .empty, some (.ofList ["https://rs.example"]), none, some .empty, none⟩ ∧
    lendingMemory.answer (.roles ⟨7⟩ .full) =
      .ok ⟨some .empty, some (.ofList ["https://rs.example"]), none, some .empty, none⟩ := by
  have hclients : ∀ c ∈ lendingTables.clients, SecretAlgorithm.argon2id.tag = c.algorithm := by
    decide
  have hdelegations : ∀ d ∈ lendingTables.delegations, Role.provider.name = d.role := by decide
  have hcanonical : lendingTables.IsCanonical :=
    ⟨fun c hc => ⟨_, hclients c hc⟩, fun d hd => ⟨_, hdelegations d hd⟩⟩
  have hheld : lendingTables.HeldBy lendingMemory :=
    ⟨fun _ => List.Perm.mem_iff (by decide), fun _ => List.Perm.mem_iff (by decide),
      fun _ => List.Perm.mem_iff (by decide)⟩
  have hfind := answered_eq_find _ _ _ hcanonical hheld lendingTables.repliedBy_reply rfl
  have hgrant : lendingMemory.find (.providerGrant ⟨7⟩ ⟨5⟩ "https://as.example") =
      some ⟨⟨3⟩, ⟨5⟩, ⟨7⟩, .provider, "https://AS.example/"⟩ := by
    change lendingMemory.providerGrant ⟨7⟩ ⟨5⟩ "https://as.example" = _
    decide +kernel
  have hroles : lendingMemory.find (.roles ⟨7⟩ .full) =
      ⟨some .empty, some (.ofList ["https://rs.example"]), none, some .empty, none⟩ := by decide
  obtain ⟨hgrant₁, hgrant₂⟩ := hfind (.providerGrant ⟨7⟩ ⟨5⟩ "https://as.example")
  obtain ⟨hroles₁, hroles₂⟩ := hfind (.roles ⟨7⟩ .full)
  rw [hgrant] at hgrant₁ hgrant₂
  rw [hroles] at hroles₁ hroles₂
  exact ⟨hgrant₁, hgrant₂, hroles₁, hroles₂⟩

end Gatehouse.Store
