import Gatehouse.Store.Statement
import Gatehouse.Text.Blank
import Gatehouse.Text.Lowercase

/-!
# What a database replies

The contents of the tables (`Tables`), and the rows that a statement yields over them
(`Statement.Yields`). The rows of the sources are put beside each other, those that satisfy the
condition are kept, and what is asked for is read off each. Nothing is equal to a null, not even
another one. Rows come in any order, unless the least one is asked for; identifiers are ordered as
numbers, and nothing is said about the order of texts.
-/

namespace Gatehouse.Store

/-! ## Contents -/

/-- A row of the table of resource servers. -/
structure ServerRecord where
  id : Uuid
  url : String
deriving DecidableEq

/-- A row of the table of roles. -/
structure RoleRecord where
  user : Uuid
  role : String
  server : Option Uuid
  status : String
deriving DecidableEq

/-- A row of the table of clients. -/
structure ClientRecord where
  id : Uuid
  owner : Uuid
  secretHash : String
  algorithm : String
deriving DecidableEq

/-- A row of the table of delegations. -/
structure DelegationRecord where
  id : Uuid
  delegator : Uuid
  delegate : Uuid
  role : String
  server : Uuid
  status : String
deriving DecidableEq

/-- The contents of the tables. Rows are told apart by their identifiers, and every resource server
that is referred to is there. -/
structure Tables where
  servers : List ServerRecord := []
  roles : List RoleRecord := []
  clients : List ClientRecord := []
  delegations : List DelegationRecord := []
  servers_nodup : (servers.map (·.id)).Nodup := by simp
  clients_nodup : (clients.map (·.id)).Nodup := by simp
  delegations_nodup : (delegations.map (·.id)).Nodup := by simp
  roles_server : ∀ r ∈ roles, ∀ id, r.server = some id → ∃ s ∈ servers, s.id = id := by simp
  delegations_server : ∀ d ∈ delegations, ∃ s ∈ servers, s.id = d.server := by simp

/-- What stands in the fields of a row; nothing in those that are null. -/
abbrev Record := String → Option Bound

def ServerRecord.fields (r : ServerRecord) : Record
  | "id" => some (.uuid r.id)
  | "url" => some (.text r.url)
  | _ => none

def RoleRecord.fields (r : RoleRecord) : Record
  | "user_id" => some (.uuid r.user)
  | "role" => some (.text r.role)
  | "resource_server_id" => r.server.map .uuid
  | "status" => some (.text r.status)
  | _ => none

def ClientRecord.fields (r : ClientRecord) : Record
  | "client_id" => some (.uuid r.id)
  | "user_id" => some (.uuid r.owner)
  | "client_secret" => some (.text r.secretHash)
  | "algorithm" => some (.text r.algorithm)
  | _ => none

def DelegationRecord.fields (r : DelegationRecord) : Record
  | "id" => some (.uuid r.id)
  | "delegator_user_id" => some (.uuid r.delegator)
  | "delegate_user_id" => some (.uuid r.delegate)
  | "role" => some (.text r.role)
  | "resource_server_id" => some (.uuid r.server)
  | "status" => some (.text r.status)
  | _ => none

/-- The rows of a table. -/
def Tables.records (t : Tables) : Table → List Record
  | .servers => t.servers.map (·.fields)
  | .roles => t.roles.map (·.fields)
  | .clients => t.clients.map (·.fields)
  | .delegations => t.delegations.map (·.fields)

/-! ## Terms and conditions -/

/-- One row of every source, with the label of the source. -/
abbrev Scope := List (Option String × Record)

def Scope.get (scope : Scope) (f : FieldName) : Option Bound :=
  (scope.lookup f.label).bind fun record => record f.name

/-- Whether two contents are there and are equal. -/
def isEqual (a b : Option Bound) : Bool := a.isSome && a == b

/-- What a change of texts makes of a content. -/
def onText (f : String → String) : Option Bound → Option Bound
  | some (.text s) => some (.text (f s))
  | _ => none

def Term.eval (scope : Scope) : Term → Option Bound
  | .field f => scope.get f
  | .value v => some v
  | .literal s => some (.text s)
  | .null => none
  | .lower t => onText Text.lowercase (t.eval scope)
  | .trimEnd t c => onText (Text.trimEndWhile (· == c)) (t.eval scope)

/-- Whether a content is a text among some texts. -/
def isAmong : Option Bound → Option Bound → Bool
  | some (.text s), some (.texts l) => l.contains s
  | _, _ => false

def Condition.holds (t : Tables) : Scope → Condition → Bool
  | scope, .equal a b => isEqual (a.eval scope) (b.eval scope)
  | scope, .oneOf a texts => isAmong (a.eval scope) (texts.eval scope)
  | scope, .both a b => a.holds t scope && b.holds t scope
  | scope, .someRow s c => (t.records s.table).any fun r => c.holds t ((s.label, r) :: scope)
  | _, .never => false

/-! ## Rows -/

/-- The row of another source beside those that are there already. -/
def Scope.beside (scope : Scope) (s : Source) (r : Record) : Scope := scope ++ [(s.label, r)]

/-- The rows of a source that a join puts beside the rows that are there already. A left join puts
nulls there when it has no others. -/
def Join.extend (t : Tables) (j : Join) (scope : Scope) : List Scope :=
  let found := ((t.records j.source.table).map (scope.beside j.source)).filter fun wide =>
    isEqual (wide.get j.field) (wide.get j.partner)
  match j.kind with
  | .inner => found
  | .left => if found.isEmpty then [scope.beside j.source fun _ => none] else found

namespace Select

/-- The rows of the sources before the condition is applied. -/
def candidates (t : Tables) (s : Select) : List Scope :=
  let first : List Scope := match s.source with
    | none => [[]]
    | some source => (t.records source.table).map fun r => [(source.label, r)]
  match s.join with
  | none => first
  | some j => first.flatMap (j.extend t)

def scopes (t : Tables) (s : Select) : List Scope :=
  (s.candidates t).filter fun scope => s.condition.holds t scope

end Select

/-- A content as it is sent. -/
def cellOf : Option Bound → Cell
  | some (.uuid u) => .text u.toText
  | some (.text s) => .text s
  | _ => .null

def Output.eval (scope : Scope) : Output → Cell
  | .field f _ => cellOf (scope.get f)
  | .named t _ => cellOf (t.eval scope)

/-- What is asked for, read off the rows of the sources. -/
def Select.row (s : Select) (scope : Scope) : Row :=
  s.outputs.map fun o => (o.column, o.eval scope)

def Select.rows (t : Tables) (s : Select) : List Row := (s.scopes t).map s.row

/-! ## Statements -/

/-- Whether one content may come before another one when rows are ordered. -/
def MayPrecede : Option Bound → Option Bound → Prop
  | some (.uuid a), some (.uuid b) => a.bits.toNat ≤ b.bits.toNat
  | _, _ => True

/-- The rows that a statement may yield. -/
def Statement.Yields (t : Tables) : Statement → List Row → Prop
  | .select s, rows => rows.Perm (s.rows t)
  | .unionAll a b, rows => rows.Perm (a.rows t ++ b.rows t)
  | .leastBy s f, rows => ∃ scopes : List Scope, scopes.Perm (s.scopes t) ∧
      scopes.Pairwise (fun x y => MayPrecede (x.get f) (y.get f)) ∧
      rows = (scopes.take 1).map s.row

/-- A database with these contents replies to every statement with rows that it may yield. -/
def Tables.RepliedBy (t : Tables) (database : Statement → Reply) : Prop :=
  ∀ s, ∃ rows, database s = .rows rows ∧ s.Yields t rows

/-! ## A database with some contents -/

/-- The place of a content when rows are ordered: identifiers as numbers, all else at the end. -/
def rank : Option Bound → Nat
  | some (.uuid u) => u.bits.toNat
  | _ => (BitVec.allOnes 128).toNat

theorem mayPrecede_of_rank_le {a b : Option Bound} (h : rank a ≤ rank b) : MayPrecede a b := by
  unfold MayPrecede
  split
  · exact h
  · trivial

/-- Whether the content of a field comes no later in one row than in another one. -/
def isNoLater (f : FieldName) (x y : Scope) : Bool := rank (x.get f) ≤ rank (y.get f)

/-- The reply of a database that goes through its tables in order. -/
def Tables.reply (t : Tables) : Statement → Reply
  | .select s => .rows (s.rows t)
  | .unionAll a b => .rows (a.rows t ++ b.rows t)
  | .leastBy s f => .rows ((((s.scopes t).mergeSort (isNoLater f)).take 1).map s.row)

/-- For any contents there is a database that has them. -/
theorem Tables.repliedBy_reply (t : Tables) : t.RepliedBy t.reply := by
  intro s
  cases s with
  | select s => exact ⟨_, rfl, .refl _⟩
  | unionAll a b => exact ⟨_, rfl, .refl _⟩
  | leastBy s f =>
    refine ⟨_, rfl, _, List.mergeSort_perm _ _, ?_, rfl⟩
    have hsorted : ((s.scopes t).mergeSort (isNoLater f)).Pairwise fun x y => isNoLater f x y := by
      apply List.pairwise_mergeSort
      · intro x y z hxy hyz
        simp only [isNoLater, decide_eq_true_eq] at *
        exact Nat.le_trans hxy hyz
      · intro x y
        simpa [isNoLater] using Nat.le_total _ _
    exact hsorted.imp fun h => mayPrecede_of_rank_le (by simpa [isNoLater] using h)

/-! ## Joining resource servers -/

namespace Tables

variable {t : Tables}

/-- The resource server with an identifier. -/
def serverOf (t : Tables) (id : Uuid) : Option ServerRecord := t.servers.find? (·.id == id)

/-- The address of the resource server with an identifier. -/
def urlOf (t : Tables) (id : Uuid) : Option String := (t.serverOf id).map (·.url)

/-- Of entries with distinct keys, at most one is kept for a key. -/
theorem filter_key_eq_toList {α κ : Type} [BEq κ] [LawfulBEq κ] {key : α → κ} {l : List α}
    (h : (l.map key).Nodup) (k : κ) :
    l.filter (key · == k) = (l.find? (key · == k)).toList := by
  induction l with
  | nil => rfl
  | cons a l ih =>
    rw [List.map_cons, List.nodup_cons] at h
    rw [List.filter_cons, List.find?_cons]
    cases hk : key a == k with
    | false => exact ih h.2
    | true =>
      -- Any other entry that is kept has the key of the first one.
      have hnone : l.filter (key · == k) = [] := by
        rw [List.filter_eq_nil_iff]
        intro b hb hkb
        rw [beq_iff_eq] at hk hkb
        exact h.1 (hk.trans hkb.symm ▸ List.mem_map_of_mem hb)
      simp [hnone]

theorem exists_serverOf {id : Uuid} (h : ∃ s ∈ t.servers, s.id = id) :
    ∃ s, t.serverOf id = some s := by
  obtain ⟨s, hs, hid⟩ := h
  refine Option.isSome_iff_exists.mp ?_
  rw [serverOf, List.find?_isSome]
  exact ⟨s, hs, by simpa using hid⟩

end Tables

/-- What a join with the table of resource servers puts beside some rows: the one that they refer
to by its identifier, and where they refer to none, nothing or nulls. -/
theorem Join.extend_servers {t : Tables} {j : Join} {scope : Scope} (id : Option Uuid)
    (htable : j.source.table = .servers)
    (hfield : ∀ s : ServerRecord, (scope.beside j.source s.fields).get j.field = some (.uuid s.id))
    (hpartner : ∀ r, (scope.beside j.source r).get j.partner = id.map .uuid) :
    j.extend t scope = match j.kind with
      | .inner => ((id.bind t.serverOf).map fun s => scope.beside j.source s.fields).toList
      | .left =>
        [scope.beside j.source ((id.bind t.serverOf).elim (fun _ => none) (·.fields))] := by
  have hfound : ((t.records j.source.table).map (scope.beside j.source)).filter (fun wide =>
      isEqual (wide.get j.field) (wide.get j.partner)) =
        ((id.bind t.serverOf).map fun s => scope.beside j.source s.fields).toList := by
    rw [htable]
    change ((t.servers.map (·.fields)).map (scope.beside j.source)).filter _ = _
    rw [List.map_map, List.filter_map]
    simp only [Function.comp_def, hfield, hpartner]
    cases id with
    | none => simp [isEqual]
    | some id =>
      have hkey : (fun s : ServerRecord => isEqual (some (.uuid s.id)) ((some id).map .uuid)) =
          fun s => s.id == id := by
        funext s
        simp [isEqual, Bool.beq_eq_decide_eq]
      rw [hkey, Tables.filter_key_eq_toList t.servers_nodup, Option.bind_some, Tables.serverOf]
      cases t.servers.find? (·.id == id) with
      | none => rfl
      | some s => rfl
  unfold extend
  dsimp only
  rw [hfound]
  cases j.kind with
  | inner => rfl
  | left =>
    cases id.bind t.serverOf with
    | none => rfl
    | some s => rfl

end Gatehouse.Store
