import Gatehouse.Proofs.Identity
import Gatehouse.Store.Memory
import Mathlib.Data.List.Nodup

/-!
# What a store in memory finds

Each lookup finds exactly the rows that it should: approved rows for a role of the table of roles,
active grants for the role of a delegate, the one credential with a client id, the one active grant
with an id and a delegate, and some active grant on the trust domain whenever there is one.
-/

namespace Gatehouse.Store

/-! ## Counts -/

/-- The three numbers that a store keeps. -/
inductive Counter
  | roles
  | clients
  | delegations
deriving DecidableEq

/-- The number that a call adds to. -/
def Counter.of : StoreCall → Counter
  | .roles _ _ => .roles
  | .client _ => .clients
  | .grant _ _ | .providerGrant _ _ _ => .delegations

def CallCounts.get (n : CallCounts) : Counter → Nat
  | .roles => n.roles
  | .clients => n.clients
  | .delegations => n.delegations

theorem CallCounts.get_count (n : CallCounts) (c : StoreCall) (k : Counter) :
    (n.count c).get k = n.get k + if Counter.of c = k then 1 else 0 := by
  cases c <;> cases k <;> rfl

namespace Memory

variable {m : Memory}

/-! ## Roles -/

/-- The store has an approved row of a user for a role. -/
def IsApproved (m : Memory) (user : Uuid) (role : Role) : Prop :=
  ∃ row ∈ m.roleRows, row.user = user ∧ row.role = role ∧ row.approved = true

/-- The store has an approved row of a user for a role on a resource server. -/
def IsApprovedOn (m : Memory) (user : Uuid) (role : Role) (url : String) : Prop :=
  ∃ row ∈ m.roleRows, row.user = user ∧ row.role = role ∧ row.approved = true ∧ row.url = some url

/-- The store has an active grant with a user as its delegate. -/
def IsDelegate (m : Memory) (user : Uuid) : Prop :=
  ∃ row ∈ m.delegations, row.active = true ∧ row.grant.delegate = user

theorem mem_approvedRows {user : Uuid} {role : Role} {row : RoleRow} :
    row ∈ m.approvedRows user role ↔
      row ∈ m.roleRows ∧ row.user = user ∧ row.role = role ∧ row.approved = true := by
  simp [approvedRows, and_assoc]

theorem isDelegate_iff {user : Uuid} : m.isDelegate user = true ↔ m.IsDelegate user := by
  simp [isDelegate, IsDelegate]

theorem isEmpty_approvedRows {user : Uuid} {role : Role} :
    (m.approvedRows user role).isEmpty = false ↔ m.IsApproved user role := by
  rw [List.isEmpty_eq_false_iff_exists_mem]
  simp only [mem_approvedRows, IsApproved]

/-- The roles that the store may grant from its table of roles. -/
theorem grantedOn_of_table {user : Uuid} {role : Role} (hd : role ≠ .delegate)
    (hc : role ≠ .cosAdmin) :
    m.grantedOn user role =
      if (m.approvedRows user role).isEmpty then none
      else some (if role.isScoped then
        .ofList ((m.approvedRows user role).filterMap (·.url)) else .empty) := by
  cases role with
  | delegate => exact absurd rfl hd
  | cosAdmin => exact absurd rfl hc
  | admin => rfl
  | provider => rfl
  | consumer => rfl

/-- The store never makes anybody the platform administrator, makes a delegate of whoever is named
on an active grant, and grants every other role to those with an approved row. -/
theorem isSome_grantedOn {user : Uuid} {role : Role} :
    (m.grantedOn user role).isSome = true ↔
      match role with
      | .cosAdmin => False
      | .delegate => m.IsDelegate user
      | role => m.IsApproved user role := by
  have htable : ∀ role, role ≠ .delegate → role ≠ .cosAdmin →
      ((m.grantedOn user role).isSome = true ↔ m.IsApproved user role) := by
    intro role hd hc
    rw [grantedOn_of_table hd hc, ← isEmpty_approvedRows]
    cases (m.approvedRows user role).isEmpty <;> simp
  cases role with
  | cosAdmin => simp [grantedOn]
  | delegate =>
    rw [← isDelegate_iff]
    cases h : m.isDelegate user <;> simp [grantedOn, h]
  | admin => exact htable _ (by decide) (by decide)
  | provider => exact htable _ (by decide) (by decide)
  | consumer => exact htable _ (by decide) (by decide)

/-- The resource servers granted with a scoped role are those of its approved rows. -/
theorem mem_grantedOn {user : Uuid} {role : Role} (hs : role.isScoped = true) {url : String} :
    (∃ urls, m.grantedOn user role = some urls ∧ url ∈ urls) ↔ m.IsApprovedOn user role url := by
  have hd : role ≠ .delegate := by rintro rfl; cases hs
  have hc : role ≠ .cosAdmin := by rintro rfl; cases hs
  rw [grantedOn_of_table hd hc]
  constructor
  · rintro ⟨urls, h, hu⟩
    rw [if_pos hs] at h
    split at h
    · cases h
    · cases h
      rw [TextSet.mem_ofList] at hu
      obtain ⟨row, hrow, hurl⟩ := List.mem_filterMap.mp hu
      obtain ⟨hm, huser, hrole, happ⟩ := mem_approvedRows.mp hrow
      exact ⟨row, hm, huser, hrole, happ, hurl⟩
  · rintro ⟨row, hm, huser, hrole, happ, hurl⟩
    have hrow : row ∈ m.approvedRows user role := mem_approvedRows.mpr ⟨hm, huser, hrole, happ⟩
    have hne : (m.approvedRows user role).isEmpty = false :=
      isEmpty_approvedRows.mpr ⟨row, hm, huser, hrole, happ⟩
    refine ⟨_, by rw [hne, if_pos hs]; rfl, ?_⟩
    exact TextSet.mem_ofList.mpr (List.mem_filterMap.mpr ⟨row, hrow, hurl⟩)

/-- A role that is not held on resource servers is granted with none of them. -/
theorem eq_empty_of_grantedOn {user : Uuid} {role : Role} (hs : role.isScoped = false)
    {urls : TextSet} (h : m.grantedOn user role = some urls) : urls = .empty := by
  cases role with
  | provider => cases hs
  | consumer => cases hs
  | cosAdmin => cases h
  | delegate =>
    rw [grantedOn, Option.ite_none_right_eq_some] at h
    exact (Option.some.inj h.2).symm
  | admin =>
    rw [grantedOn_of_table (by decide) (by decide), Option.ite_none_left_eq_some] at h
    exact (Option.some.inj h.2).symm

theorem get_grantedRoles (user : Uuid) (requested : RoleSet) (role : Role) :
    (m.grantedRoles user requested).get role =
      if requested.contains role then m.grantedOn user role else none := by
  unfold grantedRoles
  rw [PerRole.get_tabulate]

/-! ## Clients and grants -/

/-- Of entries with distinct keys, a search by key finds the one with the key. -/
theorem find?_key_eq_some {α κ : Type} [BEq κ] [LawfulBEq κ] {key : α → κ} {l : List α}
    (h : (l.map key).Nodup) {k : κ} {a : α} :
    l.find? (key · == k) = some a ↔ a ∈ l ∧ key a = k := by
  constructor
  · intro hf
    exact ⟨List.mem_of_find?_eq_some hf, by simpa using List.find?_some hf⟩
  · rintro ⟨ha, rfl⟩
    induction l with
    | nil => cases ha
    | cons b l ih =>
      rw [List.map_cons, List.nodup_cons] at h
      rcases List.mem_cons.mp ha with rfl | ha
      · simp
      · -- The first entry has another key, or there would be two of that key.
        have hb : (key b == key a) = false := by
          rw [beq_eq_false_iff_ne]
          intro hk
          exact h.1 (hk ▸ List.mem_map_of_mem ha)
        rw [List.find?_cons, hb]
        exact ih h.2 ha

theorem clientById_eq_some {id : Uuid} {c : ClientCredential} :
    m.clientById id = some c ↔ c ∈ m.clients ∧ c.client = id :=
  find?_key_eq_some m.clients_nodup

theorem mem_activeGrants {delegate : Uuid} {g : DelegationGrant} :
    g ∈ m.activeGrants delegate ↔ ⟨g, true⟩ ∈ m.delegations ∧ g.delegate = delegate := by
  unfold activeGrants
  simp only [List.mem_map, List.mem_filter, Bool.and_eq_true, beq_iff_eq]
  constructor
  · rintro ⟨⟨g', active⟩, ⟨hm, hact, hdel⟩, rfl⟩
    exact ⟨by rw [← hact]; exact hm, hdel⟩
  · rintro ⟨hm, hdel⟩
    exact ⟨_, ⟨hm, rfl, hdel⟩, rfl⟩

theorem nodup_activeGrants (m : Memory) (delegate : Uuid) :
    ((m.activeGrants delegate).map (·.id)).Nodup := by
  unfold activeGrants
  rw [List.map_map]
  exact (List.filter_sublist.map _).nodup m.delegations_nodup

theorem grantById_eq_some {id delegate : Uuid} {g : DelegationGrant} :
    m.grantById id delegate = some g ↔
      ⟨g, true⟩ ∈ m.delegations ∧ g.delegate = delegate ∧ g.id = id := by
  rw [grantById, find?_key_eq_some (m.nodup_activeGrants delegate), mem_activeGrants, and_assoc]

theorem isSome_foldl_lesserGrant (l : List DelegationGrant) (b : DelegationGrant) :
    (l.foldl lesserGrant (some b)).isSome = true := by
  induction l generalizing b with
  | nil => rfl
  | cons g l ih =>
    rw [List.foldl_cons, lesserGrant]
    split
    · exact ih g
    · exact ih b

theorem isSome_leastGrant? {l : List DelegationGrant} :
    (leastGrant? l).isSome = true ↔ ∃ g, g ∈ l := by
  cases l with
  | nil => simp [leastGrant?]
  | cons g l =>
    exact ⟨fun _ => ⟨g, List.mem_cons_self⟩, fun _ => isSome_foldl_lesserGrant l g⟩

/-- The grant that a search for the smallest id ends with is one of those that it saw, and none of
them has a smaller id. -/
theorem foldl_lesserGrant {l : List DelegationGrant} {b g : DelegationGrant}
    (h : l.foldl lesserGrant (some b) = some g) :
    g ∈ b :: l ∧ ∀ g' ∈ b :: l, g.id.bits.toNat ≤ g'.id.bits.toNat := by
  induction l generalizing b with
  | nil =>
    cases h
    refine ⟨List.mem_cons_self, fun g' hg' => ?_⟩
    exact Nat.le_of_eq (by rw [List.mem_singleton.mp hg'])
  | cons a l ih =>
    rw [List.foldl_cons, lesserGrant] at h
    cases hlt : a.id.lt b.id with
    | true =>
      rw [hlt, if_pos rfl] at h
      obtain ⟨hmem, hleast⟩ := ih h
      have hab : a.id.bits.toNat < b.id.bits.toNat := by simpa [Uuid.lt] using hlt
      refine ⟨List.mem_cons_of_mem b hmem, fun g' hg' => ?_⟩
      rcases List.mem_cons.mp hg' with rfl | hg'
      · have hga := hleast a List.mem_cons_self
        omega
      · exact hleast g' hg'
    | false =>
      rw [hlt, if_neg Bool.false_ne_true] at h
      obtain ⟨hmem, hleast⟩ := ih h
      have hba : b.id.bits.toNat ≤ a.id.bits.toNat := by simpa [Uuid.lt] using hlt
      refine ⟨?_, fun g' hg' => ?_⟩
      · rcases List.mem_cons.mp hmem with rfl | hmem
        · exact List.mem_cons_self
        · exact List.mem_cons_of_mem b (List.mem_cons_of_mem a hmem)
      · rcases List.mem_cons.mp hg' with rfl | hg'
        · exact hleast g' List.mem_cons_self
        · rcases List.mem_cons.mp hg' with rfl | hg'
          · have hgb := hleast b List.mem_cons_self
            omega
          · exact hleast g' (List.mem_cons_of_mem b hg')

theorem leastGrant?_eq_some {l : List DelegationGrant} {g : DelegationGrant}
    (h : leastGrant? l = some g) :
    g ∈ l ∧ ∀ g' ∈ l, g.id.bits.toNat ≤ g'.id.bits.toNat := by
  cases l with
  | nil => cases h
  | cons b l => exact foldl_lesserGrant h

/-- If no two grants have the same id, one with the smallest id is the one that is found. -/
theorem leastGrant?_of_least {l : List DelegationGrant} {g : DelegationGrant}
    (hnodup : (l.map (·.id)).Nodup) (hg : g ∈ l)
    (hleast : ∀ g' ∈ l, g.id.bits.toNat ≤ g'.id.bits.toNat) : leastGrant? l = some g := by
  obtain ⟨found, hfound⟩ := Option.isSome_iff_exists.mp (isSome_leastGrant?.mpr ⟨g, hg⟩)
  obtain ⟨hmem, hfoundLeast⟩ := leastGrant?_eq_some hfound
  have hid : found.id = g.id := congrArg Uuid.mk <|
    BitVec.eq_of_toNat_eq (Nat.le_antisymm (hfoundLeast g hg) (hleast found hmem))
  rw [hfound, List.inj_on_of_nodup_map hnodup hmem hg hid]

/-- Which grant has the smallest id depends on what grants there are alone, if no two of them have
the same id. -/
theorem leastGrant?_congr {l l' : List DelegationGrant} (hmem : ∀ g, g ∈ l ↔ g ∈ l')
    (hnodup : (l.map (·.id)).Nodup) : leastGrant? l = leastGrant? l' := by
  cases h : leastGrant? l' with
  | none =>
    refine Option.not_isSome_iff_eq_none.mp fun hsome => ?_
    obtain ⟨g, hg⟩ := isSome_leastGrant?.mp hsome
    have hsome' := isSome_leastGrant?.mpr ⟨g, (hmem g).mp hg⟩
    rw [h] at hsome'
    cases hsome'
  | some g =>
    obtain ⟨hg, hleast⟩ := leastGrant?_eq_some h
    exact leastGrant?_of_least hnodup ((hmem g).mpr hg) fun g' hg' => hleast g' ((hmem g').mp hg')

/-- An active grant that lets its delegate act for a provider on the trust domain itself. -/
structure IsProviderGrant (m : Memory) (delegate provider : Uuid) (trustDomain : String)
    (g : DelegationGrant) : Prop where
  mem : ⟨g, true⟩ ∈ m.delegations
  delegate_eq : g.delegate = delegate
  delegator_eq : g.delegator = provider
  role_eq : g.role = .provider
  isTrustDomain : ServerUrl.normalise g.url = ServerUrl.normalise trustDomain

/-- Of the grants that let a delegate act for a provider, the one with the smallest id is found. -/
theorem providerGrant_of_least {delegate provider : Uuid} {trustDomain : String}
    {g : DelegationGrant} (hg : m.IsProviderGrant delegate provider trustDomain g)
    (hleast : ∀ g', m.IsProviderGrant delegate provider trustDomain g' →
      g.id.bits.toNat ≤ g'.id.bits.toNat) :
    m.providerGrant delegate provider trustDomain = some g := by
  have hnodup : (((m.activeGrants delegate).filter fun g =>
      g.delegator == provider && g.role == .provider && ServerUrl.same g.url trustDomain).map
        (·.id)).Nodup := (List.filter_sublist.map _).nodup (m.nodup_activeGrants delegate)
  refine leastGrant?_of_least hnodup ?_ fun g' hg' => hleast g' ?_
  · simp [ServerUrl.same, hg.delegator_eq, hg.role_eq, hg.isTrustDomain,
      mem_activeGrants.mpr ⟨hg.mem, hg.delegate_eq⟩]
  · simp only [List.mem_filter, mem_activeGrants, Bool.and_eq_true, beq_iff_eq,
      ServerUrl.same] at hg'
    obtain ⟨⟨hmem, hto⟩, ⟨hfrom, hrole⟩, hurl⟩ := hg'
    exact ⟨hmem, hto, hfrom, hrole, hurl⟩

/-- There is a grant on the trust domain to act for a provider when an active row says so. -/
theorem isSome_providerGrant {delegate provider : Uuid} {trustDomain : String} :
    (m.providerGrant delegate provider trustDomain).isSome = true ↔
      ∃ g, ⟨g, true⟩ ∈ m.delegations ∧ g.delegate = delegate ∧ g.delegator = provider ∧
        g.role = .provider ∧ ServerUrl.normalise g.url = ServerUrl.normalise trustDomain := by
  unfold providerGrant
  rw [isSome_leastGrant?]
  simp only [List.mem_filter, mem_activeGrants, Bool.and_eq_true, beq_iff_eq, ServerUrl.same,
    and_assoc]

end Memory

end Gatehouse.Store
