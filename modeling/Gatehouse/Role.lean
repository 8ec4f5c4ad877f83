import Gatehouse.Text.Ascii
import Gatehouse.Text.Blank
/-!
Roles on the platform. PROVIDER and CONSUMER are held on particular resource servers; the others
are held or not. A table with one cell per role gives role sets and maps from roles, each with one
representation only.
-/

namespace Gatehouse

/-- A role that a user may hold. -/
inductive Role
  /-- Administrator of a resource server. -/
  | admin
  /-- Provider of data on one or more resource servers. -/
  | provider
  /-- Consumer of data on one or more resource servers. -/
  | consumer
  /-- May act for another user under a delegation. -/
  | delegate
  /-- The one administrator of the platform, named by the configuration. -/
  | cosAdmin
deriving DecidableEq, Repr

namespace Role

/-- Every role, in the order in which role lists are written. -/
def all : List Role := [.admin, .provider, .consumer, .delegate, .cosAdmin]

/-- The name of a role on the wire and in storage. -/
def name : Role → String
  | .admin => "ADMIN"
  | .provider => "PROVIDER"
  | .consumer => "CONSUMER"
  | .delegate => "DELEGATE"
  | .cosAdmin => "COS_ADMIN"

/-- Whether a role is held on particular resource servers. -/
def isScoped : Role → Bool
  | .provider | .consumer => true
  | _ => false

/-- The role with exactly this name. -/
def ofName? (s : String) : Option Role := all.find? fun r => r.name == s

/-- The role a text names, blank characters around it and the case of its letters apart. -/
def parse? (s : String) : Option Role :=
  all.find? fun r => Text.sameIgnoringCase r.name (Text.trim s)

/-- The complaint about a text that names no role, which quotes the whole text. -/
def unknownMessage (s : String) : String := "unknown role: " ++ s

end Role

/-- One cell for each role. -/
structure PerRole (α : Type) where
  admin : α
  provider : α
  consumer : α
  delegate : α
  cosAdmin : α
deriving DecidableEq

namespace PerRole

variable {α β : Type}

/-- The same content in every cell. -/
def const (a : α) : PerRole α := ⟨a, a, a, a, a⟩

/-- The table of a function. -/
def tabulate (f : Role → α) : PerRole α :=
  ⟨f .admin, f .provider, f .consumer, f .delegate, f .cosAdmin⟩

/-- The content of a cell. -/
def get (t : PerRole α) : Role → α
  | .admin => t.admin
  | .provider => t.provider
  | .consumer => t.consumer
  | .delegate => t.delegate
  | .cosAdmin => t.cosAdmin

/-- The table with another content in one cell. -/
def set (t : PerRole α) (r : Role) (a : α) : PerRole α :=
  match r with
  | .admin => { t with admin := a }
  | .provider => { t with provider := a }
  | .consumer => { t with consumer := a }
  | .delegate => { t with delegate := a }
  | .cosAdmin => { t with cosAdmin := a }

@[simp] theorem get_tabulate (f : Role → α) (r : Role) : (tabulate f).get r = f r := by
  cases r <;> rfl

@[simp] theorem get_const (a : α) (r : Role) : (const a).get r = a := by cases r <;> rfl

@[simp] theorem get_set (t : PerRole α) (r q : Role) (a : α) :
    (t.set r a).get q = if q = r then a else t.get q := by
  cases r <;> cases q <;> rfl

theorem ext_get {s t : PerRole α} (h : ∀ r, s.get r = t.get r) : s = t := by
  cases s; cases t
  have h1 := h .admin; have h2 := h .provider; have h3 := h .consumer
  have h4 := h .delegate; have h5 := h .cosAdmin
  simp only [get] at h1 h2 h3 h4 h5
  subst h1 h2 h3 h4 h5
  rfl

end PerRole

/-- A set of roles. -/
structure RoleSet where
  cells : PerRole Bool
deriving DecidableEq

namespace RoleSet

/-- The set without members. -/
def empty : RoleSet := ⟨.const false⟩

def full : RoleSet := ⟨.const true⟩

def contains (s : RoleSet) (r : Role) : Bool := s.cells.get r

/-- The set with one more member. -/
def insert (s : RoleSet) (r : Role) : RoleSet := ⟨s.cells.set r true⟩

/-- The members in role order. -/
def toList (s : RoleSet) : List Role := Role.all.filter s.contains

def ofList (l : List Role) : RoleSet := l.foldl insert empty

@[simp] theorem contains_empty (r : Role) : empty.contains r = false := by simp [empty, contains]

@[simp] theorem contains_insert (s : RoleSet) (r q : Role) :
    (s.insert r).contains q = (decide (q = r) || s.contains q) := by
  by_cases h : q = r <;> simp [insert, contains, h]

theorem ext_contains {s t : RoleSet} (h : ∀ r, s.contains r = t.contains r) : s = t := by
  cases s; cases t
  exact congrArg RoleSet.mk (PerRole.ext_get h)

end RoleSet

end Gatehouse
