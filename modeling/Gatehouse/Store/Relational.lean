import Gatehouse.Call
import Gatehouse.ServerUrl
import Gatehouse.Store.RoleQuery
import Gatehouse.Text.Escaped
/-!
The store in a relational database. Every call is at most one statement; what the database replies
is read row by row and column by column, and the first thing that cannot be read fails the call.
-/

namespace Gatehouse.Store.Relational

/-- A computation that sends statements to the database. -/
abbrev Query := Dialogue Statement fun _ => Reply

def fetch {α : Type} (s : Statement) (read : List Row → Except StoreFault α) :
    Query (Except StoreFault α) :=
  .ask s fun reply => .done (reply.toExcept >>= read)

/-- The role that a text in a row names. -/
def roleOf (s : String) : Except StoreFault Role :=
  match Role.parse? s with
  | some r => .ok r
  | none => .error (.corruptRow (Role.unknownMessage s))

/-! ## Roles -/

/-- Takes a row into account. Its address is kept when its role is held on resource servers. -/
def addRoleRow (granted : RoleScope) (row : Row) : Except StoreFault RoleScope := do
  let role ← row.text "role"
  let url ← row.textOrNull "url"
  let role ← roleOf role
  return granted.extend role (if role.isScoped then url.toList else [])

def rolesOf (rows : List Row) : Except StoreFault RoleScope := rows.foldlM addRoleRow .empty

def grantedRoles (user : Uuid) (requested : RoleSet) : Query (Except StoreFault RoleScope) :=
  let query := RoleQuery.plan user requested
  if query.isEmpty then .done (.ok .empty) else fetch query.statement rolesOf

/-! ## Clients -/

def clientStatement (id : Uuid) : Statement :=
  .select {
    outputs := [.field ⟨none, "client_id"⟩ .uuid, .field ⟨none, "user_id"⟩ .uuid,
      .field ⟨none, "client_secret"⟩ .text, .field ⟨none, "algorithm"⟩ .text]
    source := some ⟨.clients, none⟩
    condition := .equal (.field ⟨none, "client_id"⟩) (.value (.uuid id)) }

def algorithmOf (tag : String) : Except StoreFault SecretAlgorithm :=
  match SecretAlgorithm.ofTag? tag with
  | some a => .ok a
  | none => .error (.corruptRow ("unknown secret algorithm " ++ Text.escaped tag))

def clientOf (row : Row) : Except StoreFault ClientCredential := do
  let algorithm ← algorithmOf (← row.text "algorithm")
  let client ← row.uuid "client_id"
  let owner ← row.uuid "user_id"
  let secretHash ← row.text "client_secret"
  return ⟨client, owner, secretHash, algorithm⟩

/-- Reads the first of some rows, if there is one. -/
def firstRow {α : Type} (read : Row → Except StoreFault α) :
    List Row → Except StoreFault (Option α)
  | [] => .ok none
  | row :: _ => (read row).map some

def clientById (id : Uuid) : Query (Except StoreFault (Option ClientCredential)) :=
  fetch (clientStatement id) (firstRow clientOf)

/-! ## Delegations -/

/-- Asks for delegations, each with the address of its resource server. -/
def selectGrants (condition : Condition) : Select where
  outputs := [.field ⟨some "d", "id"⟩ .uuid, .field ⟨some "d", "delegator_user_id"⟩ .uuid,
    .field ⟨some "d", "delegate_user_id"⟩ .uuid, .field ⟨some "d", "role"⟩ .text,
    .field ⟨some "rs", "url"⟩ .text]
  source := some ⟨.delegations, some "d"⟩
  join := some ⟨.inner, ⟨.servers, some "rs"⟩, ⟨some "rs", "id"⟩, ⟨some "d", "resource_server_id"⟩⟩
  condition := condition

/-- The condition that a field of a delegation has a content. -/
def grantField (name : String) (v : Bound) : Condition :=
  .equal (.field ⟨some "d", name⟩) (.value v)

def grantStatement (id delegate : Uuid) : Statement :=
  .select <| selectGrants <|
    .both (grantField "id" (.uuid id)) <|
      .both (grantField "delegate_user_id" (.uuid delegate)) <|
        grantField "status" (.text activeStatus)

/-- The condition that the resource server of a delegation is the one with an address. -/
def isOnServer (url : String) : Condition :=
  .equal (.trimEnd (.lower (.field ⟨some "rs", "url"⟩)) '/')
    (.value (.text (ServerUrl.normalise url)))

/-- The statement that asks for a delegation by a provider on the trust domain itself. -/
def providerGrantStatement (delegate provider : Uuid) (trustDomain : String) : Statement :=
  .leastBy
    (selectGrants <|
      .both (grantField "delegate_user_id" (.uuid delegate)) <|
        .both (grantField "delegator_user_id" (.uuid provider)) <|
          .both (grantField "role" (.text Role.provider.name)) <|
            .both (grantField "status" (.text activeStatus)) <|
              isOnServer trustDomain)
    ⟨some "d", "id"⟩

def grantOf (row : Row) : Except StoreFault DelegationGrant := do
  let role ← row.text "role"
  let id ← row.uuid "id"
  let delegator ← row.uuid "delegator_user_id"
  let delegate ← row.uuid "delegate_user_id"
  let role ← roleOf role
  let url ← row.text "url"
  return ⟨id, delegator, delegate, role, url⟩

def grantById (id delegate : Uuid) : Query (Except StoreFault (Option DelegationGrant)) :=
  fetch (grantStatement id delegate) (firstRow grantOf)

/-- Asks for a delegation by a provider on the trust domain itself. -/
def providerGrant (delegate provider : Uuid) (trustDomain : String) :
    Query (Except StoreFault (Option DelegationGrant)) :=
  fetch (providerGrantStatement delegate provider trustDomain) (firstRow grantOf)

def answer : (c : StoreCall) → Query c.Answer
  | .roles user requested => grantedRoles user requested
  | .client id => clientById id
  | .grant id delegate => grantById id delegate
  | .providerGrant delegate provider trustDomain => providerGrant delegate provider trustDomain

end Gatehouse.Store.Relational
