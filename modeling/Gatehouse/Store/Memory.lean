import Gatehouse.Call
import Gatehouse.ServerUrl
/-!
A store that is kept in memory. Only approved role rows count; the role of a delegate is held by
whoever an active grant names as its delegate; a revoked grant is invisible. Every call is counted,
also one that is not answered.
-/

namespace Gatehouse.Store

/-- A role that a user was granted, or has asked for. -/
structure RoleRow where
  user : Uuid
  role : Role
  url : Option String
  approved : Bool
deriving DecidableEq

/-- A delegation, which counts as long as it is not revoked. -/
structure DelegationRow where
  grant : DelegationGrant
  active : Bool
deriving DecidableEq

/-- How many calls of each kind were made. -/
structure CallCounts where
  roles : Nat := 0
  clients : Nat := 0
  delegations : Nat := 0
deriving DecidableEq

def CallCounts.count (n : CallCounts) : StoreCall → CallCounts
  | .roles _ _ => { n with roles := n.roles + 1 }
  | .client _ => { n with clients := n.clients + 1 }
  | .grant _ _ | .providerGrant _ _ _ => { n with delegations := n.delegations + 1 }

/-- A store in memory. No two credentials have the same client id and no two delegations the same
id; rows of roles are kept in the order in which they were made. -/
structure Memory where
  roleRows : List RoleRow := []
  clients : List ClientCredential := []
  clients_nodup : (clients.map (·.client)).Nodup := by first | exact List.nodup_nil | simp
  delegations : List DelegationRow := []
  delegations_nodup : (delegations.map (·.grant.id)).Nodup := by
    first | exact List.nodup_nil | simp
  counts : CallCounts := {}
  /-- How long every call takes, in milliseconds. -/
  latency : Nat := 0
  /-- Whether calls are answered at all. -/
  available : Bool := true

namespace Memory

/-! ## Changes -/

def addRole (m : Memory) (row : RoleRow) : Memory := { m with roleRows := m.roleRows ++ [row] }

/-- Records a role that was approved. -/
def grantRole (m : Memory) (user : Uuid) (role : Role) (url : Option String) : Memory :=
  m.addRole ⟨user, role, url, true⟩

/-- Records a role that awaits approval. -/
def requestRole (m : Memory) (user : Uuid) (role : Role) (url : Option String) : Memory :=
  m.addRole ⟨user, role, url, false⟩

/-- Putting an entry in the place of all with its key keeps keys distinct. -/
theorem nodup_keys_insert {α κ : Type} [BEq κ] [LawfulBEq κ] {key : α → κ} {l : List α} (a : α)
    (h : (l.map key).Nodup) : ((a :: l.filter (key · != key a)).map key).Nodup := by
  rw [List.map_cons, List.nodup_cons]
  refine ⟨fun hmem => ?_, (List.filter_sublist.map key).nodup h⟩
  obtain ⟨b, hb, hkey⟩ := List.mem_map.mp hmem
  simp [hkey] at hb

/-- Stores a credential in the place of any with the same client id. -/
def insertClient (m : Memory) (c : ClientCredential) : Memory :=
  { m with
    clients := c :: m.clients.filter (·.client != c.client)
    clients_nodup := nodup_keys_insert c m.clients_nodup }

/-- Stores an active delegation in the place of any with the same id. -/
def insertDelegation (m : Memory) (g : DelegationGrant) : Memory :=
  { m with
    delegations := ⟨g, true⟩ :: m.delegations.filter (·.grant.id != g.id)
    delegations_nodup :=
      nodup_keys_insert (⟨g, true⟩ : DelegationRow) m.delegations_nodup }

/-- Whether there is a delegation with this id, revoked or not. -/
def hasDelegation (m : Memory) (id : Uuid) : Bool := m.delegations.any (·.grant.id == id)

/-- A row that is not active if it has this id. -/
def revokedRow (id : Uuid) (row : DelegationRow) : DelegationRow :=
  if row.grant.id == id then { row with active := false } else row

@[simp] theorem revokedRow_grant (id : Uuid) (row : DelegationRow) :
    (revokedRow id row).grant = row.grant := by
  unfold revokedRow
  split <;> rfl

def revokeDelegation (m : Memory) (id : Uuid) : Memory :=
  { m with
    delegations := m.delegations.map (revokedRow id)
    delegations_nodup := by
      have hkeys : (fun row => row.grant.id) ∘ revokedRow id = fun row => row.grant.id := by
        funext row
        simp
      simpa only [List.map_map, hkeys] using m.delegations_nodup }

def count (m : Memory) (c : StoreCall) : Memory := { m with counts := m.counts.count c }

/-! ## Answers -/

def approvedRows (m : Memory) (user : Uuid) (role : Role) : List RoleRow :=
  m.roleRows.filter fun row => row.user == user && row.role == role && row.approved

/-- Whether an active grant names the user as its delegate. -/
def isDelegate (m : Memory) (user : Uuid) : Bool :=
  m.delegations.any fun row => row.active && row.grant.delegate == user

/-- The resource servers of a role that a user was granted. The roles of a delegate and of the
platform administrator are never answered from the rows of roles. -/
def grantedOn (m : Memory) (user : Uuid) : Role → Option TextSet
  | .cosAdmin => none
  | .delegate => if m.isDelegate user then some .empty else none
  | role =>
    let rows := m.approvedRows user role
    if rows.isEmpty then none
    else some (if role.isScoped then .ofList (rows.filterMap (·.url)) else .empty)

def grantedRoles (m : Memory) (user : Uuid) (requested : RoleSet) : RoleScope :=
  .tabulate fun role => if requested.contains role then m.grantedOn user role else none

def clientById (m : Memory) (id : Uuid) : Option ClientCredential :=
  m.clients.find? (·.client == id)

def activeGrants (m : Memory) (delegate : Uuid) : List DelegationGrant :=
  (m.delegations.filter fun row => row.active && row.grant.delegate == delegate).map (·.grant)

/-- The active grant with an id, if it was given to the delegate. -/
def grantById (m : Memory) (id delegate : Uuid) : Option DelegationGrant :=
  (m.activeGrants delegate).find? (·.id == id)

/-- The better of a grant found so far and another one: the one with the smaller id. -/
def lesserGrant (best : Option DelegationGrant) (g : DelegationGrant) : Option DelegationGrant :=
  match best with
  | some b => if g.id.lt b.id then some g else some b
  | none => some g

/-- The grant with the smallest id. -/
def leastGrant? (l : List DelegationGrant) : Option DelegationGrant := l.foldl lesserGrant none

/-- The active grant with the smallest id that lets the delegate act for the provider on the trust
domain itself. -/
def providerGrant (m : Memory) (delegate provider : Uuid) (trustDomain : String) :
    Option DelegationGrant :=
  leastGrant? <| (m.activeGrants delegate).filter fun g =>
    g.delegator == provider && g.role == .provider && ServerUrl.same g.url trustDomain

def find (m : Memory) : (c : StoreCall) → c.Value
  | .roles user requested => m.grantedRoles user requested
  | .client id => m.clientById id
  | .grant id delegate => m.grantById id delegate
  | .providerGrant delegate provider trustDomain => m.providerGrant delegate provider trustDomain

/-- The answer to a call: what it finds, unless the store is out of order. -/
def answer (m : Memory) (c : StoreCall) : c.Answer :=
  if m.available then .ok (m.find c) else .error (.database .poolTimedOut)

end Memory

end Gatehouse.Store
