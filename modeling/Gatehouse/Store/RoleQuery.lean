import Gatehouse.Role
import Gatehouse.Store.Statement
/-!
The statement that asks for the roles of a user. One statement answers for all requested roles at
once: those that are granted are looked up in the table of roles, and the role of a delegate is held
by whoever an active delegation names. The platform administrator never reaches storage.
-/

namespace Gatehouse.Store

/-- The status of a role row that counts. -/
def approvedStatus : String := "APPROVED"

/-- The status of a delegation that may be asserted. -/
def activeStatus : String := "ACTIVE"

/-- Which of the requested roles of a user storage is asked for. -/
structure RoleQuery where
  user : Uuid
  /-- The roles that are looked up in the table of roles. -/
  granted : List Role
  /-- Whether it is asked if the user is a delegate. -/
  delegate : Bool
deriving DecidableEq

namespace RoleQuery

/-- Whether a role is granted in the table of roles. -/
def isGranted : Role → Bool
  | .admin | .provider | .consumer => true
  | _ => false

def plan (user : Uuid) (requested : RoleSet) : RoleQuery :=
  ⟨user, requested.toList.filter isGranted, requested.contains .delegate⟩

/-- Whether there is nothing to ask. -/
def isEmpty (q : RoleQuery) : Bool := q.granted.isEmpty && !q.delegate

/-- What is asked for: a role, and the resource server on which it is held. -/
def outputs (role url : Term) : List Output :=
  [.named role ⟨"role", .text⟩, .named url ⟨"url", .text⟩]

/-- The part about the table of roles. -/
def grantedPart (q : RoleQuery) : Select where
  outputs := outputs (.field ⟨some "r", "role"⟩) (.field ⟨some "rs", "url"⟩)
  source := some ⟨.roles, some "r"⟩
  join := some ⟨.left, ⟨.servers, some "rs"⟩, ⟨some "rs", "id"⟩, ⟨some "r", "resource_server_id"⟩⟩
  condition :=
    .both (.equal (.field ⟨some "r", "user_id"⟩) (.value (.uuid q.user)))
      (.both (.equal (.field ⟨some "r", "status"⟩) (.value (.text approvedStatus)))
        (.oneOf (.field ⟨some "r", "role"⟩) (.value (.texts (q.granted.map Role.name)))))

/-- The condition that some active delegation names the user. -/
def isNamed (user : Uuid) : Condition :=
  .someRow ⟨.delegations, some "d"⟩
    (.both (.equal (.field ⟨some "d", "delegate_user_id"⟩) (.value (.uuid user)))
      (.equal (.field ⟨some "d", "status"⟩) (.value (.text activeStatus))))

def delegatePart (q : RoleQuery) : Select where
  outputs := outputs (.literal Role.delegate.name) .null
  condition := isNamed q.user

/-- A query for nothing has a statement too, which yields no rows. -/
def statement (q : RoleQuery) : Statement :=
  match q.granted.isEmpty, q.delegate with
  | true, true => .select q.delegatePart
  | true, false => .select { outputs := outputs .null .null, condition := .never }
  | false, true => .unionAll q.grantedPart q.delegatePart
  | false, false => .select q.grantedPart

end RoleQuery

end Gatehouse.Store
