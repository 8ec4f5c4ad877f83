import Gatehouse.Proofs.Except
import Gatehouse.Proofs.ServerUrl
import Gatehouse.Proofs.Store
import Gatehouse.Proofs.Tables
import Gatehouse.Proofs.Uuid
import Gatehouse.Store.Relational
import Mathlib.Data.List.Forall2

/-!
# Rows of a database and what is made of them

For each statement that is sent: the rows that it yields (`mem_of_yields_roles`,
`mem_of_yields_client`, `mem_of_yields_grant`, `rows_of_yields_providerGrant`), and what is read from
such a row. The roles of a reply are those named in its rows, whatever their order is and however
often a row comes (`isSome_rolesOf`, `lists_rolesOf`).
-/

namespace Gatehouse.Store

open Relational

/-! ## Reading columns -/

namespace Row

variable {row : Row} {name s : String}

theorem textOrNull_of_null {c : Column} (h : row.column name = .ok (c, .null)) :
    row.textOrNull name = .ok none := by
  unfold textOrNull
  rw [h]
  rfl

theorem textOrNull_of_text {n : String} (h : row.column name = .ok (⟨n, .text⟩, .text s)) :
    row.textOrNull name = .ok (some s) := by
  unfold textOrNull
  rw [h]
  rfl

theorem text_of_text {n : String} (h : row.column name = .ok (⟨n, .text⟩, .text s)) :
    row.text name = .ok s := by
  unfold text
  rw [textOrNull_of_text h]
  rfl

theorem uuid_of_toText {n : String} {u : Uuid}
    (h : row.column name = .ok (⟨n, .uuid⟩, .text u.toText)) : row.uuid name = .ok u := by
  simp only [uuid, h, bind, Except.bind, Uuid.parse?_toText]
  rfl

end Row

namespace Relational

/-! ## Roles in rows -/

/-- The role in a row and the resource server that it is held on. -/
def entryOf (row : Row) : Except StoreFault (Role × Option String) := do
  let role ← row.text "role"
  let url ← row.textOrNull "url"
  let role ← roleOf role
  return (role, url)

/-- Takes a role into account. Its address is kept when the role is held on resource servers. -/
def addEntry (granted : RoleScope) (e : Role × Option String) : RoleScope :=
  granted.extend e.1 (if e.1.isScoped then e.2.toList else [])

theorem addRoleRow_eq (granted : RoleScope) (row : Row) :
    addRoleRow granted row = (entryOf row).map (addEntry granted) := by
  unfold addRoleRow entryOf
  cases row.text "role" with
  | error e => rfl
  | ok role =>
    cases row.textOrNull "url" with
    | error e => rfl
    | ok url =>
      simp only [bind, Except.bind]
      cases roleOf role with
      | error e => rfl
      | ok r => rfl

/-- Rows are read as a whole or not at all, each as one entry. -/
theorem foldlM_addRoleRow_eq_ok {rows : List Row} {start granted : RoleScope} :
    rows.foldlM addRoleRow start = .ok granted ↔
      ∃ entries, List.Forall₂ (fun row e => entryOf row = .ok e) rows entries ∧
        granted = entries.foldl addEntry start := by
  induction rows generalizing start with
  | nil =>
    constructor
    · rintro ⟨⟩
      exact ⟨[], .nil, rfl⟩
    · rintro ⟨entries, h, rfl⟩
      cases h
      rfl
  | cons row rows ih =>
    rw [List.foldlM_cons, bind_eq_ok]
    constructor
    · rintro ⟨next, hrow, hrest⟩
      rw [addRoleRow_eq, map_eq_ok] at hrow
      obtain ⟨e, he, rfl⟩ := hrow
      obtain ⟨entries, hentries, rfl⟩ := ih.mp hrest
      exact ⟨e :: entries, .cons he hentries, rfl⟩
    · rintro ⟨_, h, rfl⟩
      cases h with
      | @cons _ e _ entries he hentries =>
        refine ⟨addEntry start e, ?_, ih.mpr ⟨entries, hentries, rfl⟩⟩
        rw [addRoleRow_eq, he]
        rfl

/-- The roles of a reply, when every one of its rows can be read. -/
theorem rolesOf_eq_ok {rows : List Row} {granted : RoleScope} :
    rolesOf rows = .ok granted ↔
      ∃ entries, List.Forall₂ (fun row e => entryOf row = .ok e) rows entries ∧
        granted = entries.foldl addEntry .empty :=
  foldlM_addRoleRow_eq_ok

theorem isSome_addEntry {granted : RoleScope} {e : Role × Option String} {r : Role} :
    ((addEntry granted e).get r).isSome = true ↔ e.1 = r ∨ (granted.get r).isSome = true := by
  unfold addEntry RoleScope.extend
  rw [PerRole.get_set]
  by_cases h : r = e.1
  · simp [h]
  · simp [h, Ne.symm h]

/-- An address is kept in the entry of its role, if that role is held on resource servers. -/
theorem lists_addEntry {granted : RoleScope} {e : Role × Option String} {r : Role} {url : String} :
    (addEntry granted e).Lists r url ↔
      (r.isScoped = true ∧ e = (r, some url)) ∨ granted.Lists r url := by
  obtain ⟨q, u⟩ := e
  unfold addEntry RoleScope.extend RoleScope.Lists
  rw [PerRole.get_set]
  by_cases h : r = q
  · subst h
    rw [if_pos rfl]
    cases granted.get r with
    | none => cases r.isScoped <;> simp [eq_comm]
    | some urls => cases r.isScoped <;> simp [eq_comm, or_comm]
  · rw [if_neg h]
    simp [Ne.symm h]

/-- A role has an entry when some row names it. -/
theorem isSome_addEntries {entries : List (Role × Option String)} {granted : RoleScope} {r : Role} :
    ((entries.foldl addEntry granted).get r).isSome = true ↔
      (granted.get r).isSome = true ∨ ∃ url, (r, url) ∈ entries := by
  induction entries generalizing granted with
  | nil => simp
  | cons e entries ih =>
    obtain ⟨q, u⟩ := e
    rw [List.foldl_cons, ih, isSome_addEntry]
    simp only [List.mem_cons, Prod.mk.injEq]
    constructor
    · rintro ((rfl | h) | ⟨url, h⟩)
      · exact Or.inr ⟨u, Or.inl ⟨rfl, rfl⟩⟩
      · exact Or.inl h
      · exact Or.inr ⟨url, Or.inr h⟩
    · rintro (h | ⟨url, ⟨rfl, rfl⟩ | h⟩)
      · exact Or.inl (Or.inr h)
      · exact Or.inl (Or.inl rfl)
      · exact Or.inr ⟨url, h⟩

/-- The entry of a role lists the addresses of its rows. -/
theorem lists_addEntries {entries : List (Role × Option String)} {granted : RoleScope} {r : Role}
    {url : String} :
    (entries.foldl addEntry granted).Lists r url ↔
      granted.Lists r url ∨ (r.isScoped = true ∧ (r, some url) ∈ entries) := by
  induction entries generalizing granted with
  | nil => simp
  | cons e entries ih =>
    rw [List.foldl_cons, ih, lists_addEntry, List.mem_cons, eq_comm (a := e)]
    constructor
    · rintro ((⟨hs, h⟩ | h) | ⟨hs, h⟩)
      · exact Or.inr ⟨hs, Or.inl h⟩
      · exact Or.inl h
      · exact Or.inr ⟨hs, Or.inr h⟩
    · rintro (h | ⟨hs, h | h⟩)
      · exact Or.inl (Or.inr h)
      · exact Or.inl (Or.inl ⟨hs, h⟩)
      · exact Or.inr ⟨hs, h⟩

/-- What is read from rows one by one. -/
theorem mem_iff_of_forall₂_ok {α : Type} {read : Row → Except StoreFault α} {rows : List Row}
    {l : List α} (h : List.Forall₂ (fun row a => read row = .ok a) rows l) {a : α} :
    a ∈ l ↔ ∃ row ∈ rows, read row = .ok a := by
  induction h with
  | nil => simp
  | @cons row b rows l hrow _ ih =>
    rw [List.mem_cons, ih]
    simp only [List.mem_cons, exists_eq_or_imp, hrow, Except.ok.injEq]
    exact or_congr_left eq_comm

/-- Rows that can be read one by one can be read as a whole. -/
theorem exists_rolesOf {rows : List Row} (h : ∀ row ∈ rows, ∃ e, entryOf row = .ok e) :
    ∃ granted, rolesOf rows = .ok granted := by
  have hentries : ∃ entries, List.Forall₂ (fun row e => entryOf row = .ok e) rows entries := by
    induction rows with
    | nil => exact ⟨[], .nil⟩
    | cons row rows ih =>
      obtain ⟨e, he⟩ := h row List.mem_cons_self
      obtain ⟨entries, hentries⟩ := ih fun row hrow => h row (List.mem_cons_of_mem _ hrow)
      exact ⟨e :: entries, .cons he hentries⟩
  obtain ⟨entries, hentries⟩ := hentries
  exact ⟨_, rolesOf_eq_ok.mpr ⟨entries, hentries, rfl⟩⟩

/-- The roles of a reply are those that its rows name. -/
theorem isSome_rolesOf {rows : List Row} {granted : RoleScope} (h : rolesOf rows = .ok granted)
    {r : Role} :
    (granted.get r).isSome = true ↔ ∃ row ∈ rows, ∃ url, entryOf row = .ok (r, url) := by
  obtain ⟨entries, hentries, rfl⟩ := rolesOf_eq_ok.mp h
  rw [isSome_addEntries]
  simp only [RoleScope.empty, PerRole.get_const, Option.isSome_none, Bool.false_eq_true, false_or,
    mem_iff_of_forall₂_ok hentries]
  constructor
  · rintro ⟨url, row, hrow, he⟩
    exact ⟨row, hrow, url, he⟩
  · rintro ⟨row, hrow, url, he⟩
    exact ⟨url, row, hrow, he⟩

/-- A role that is held on resource servers is held on those in the rows that name it. -/
theorem lists_rolesOf {rows : List Row} {granted : RoleScope} (h : rolesOf rows = .ok granted)
    {r : Role} {url : String} :
    granted.Lists r url ↔ r.isScoped = true ∧ ∃ row ∈ rows, entryOf row = .ok (r, some url) := by
  obtain ⟨entries, hentries, rfl⟩ := rolesOf_eq_ok.mp h
  rw [lists_addEntries, mem_iff_of_forall₂_ok hentries]
  simp [RoleScope.Lists, RoleScope.empty]

/-! ## Rows about roles -/

variable {t : Tables}

/-- A row of a reply about roles. -/
def roleRow (role : String) (url : Option String) : Row :=
  [(⟨"role", .text⟩, .text role), (⟨"url", .text⟩, cellOf (url.map .text))]

theorem entryOf_roleRow_eq (role : String) (url : Option String) :
    entryOf (roleRow role url) = (roleOf role).map (·, url) := by
  have hrole : (roleRow role url).text "role" = .ok role := Row.text_of_text rfl
  have hurl : (roleRow role url).textOrNull "url" = .ok url := by
    cases url with
    | none => exact Row.textOrNull_of_null rfl
    | some u => exact Row.textOrNull_of_text rfl
  simp only [entryOf, hrole, hurl, bind, Except.bind]
  cases roleOf role with
  | error e => rfl
  | ok r => rfl

theorem entryOf_roleRow {role : String} {r : Role} (h : Role.parse? role = some r)
    (url : Option String) : entryOf (roleRow role url) = .ok (r, url) := by
  rw [entryOf_roleRow_eq]
  unfold roleOf
  rw [h]
  rfl

/-- A row of roles beside the resource server that it refers to, if it refers to one. -/
def roleScope (t : Tables) (r : RoleRecord) : Scope :=
  [(some "r", r.fields), (some "rs", (r.server.bind t.serverOf).elim (fun _ => none) (·.fields))]

@[simp] theorem get_roleScope (r : RoleRecord) (name : String) :
    (roleScope t r).get ⟨some "r", name⟩ = r.fields name := rfl

theorem candidates_grantedPart (q : RoleQuery) :
    q.grantedPart.candidates t = t.roles.map (roleScope t) := by
  have hjoin : ∀ r : RoleRecord, Join.extend t
      ⟨.left, ⟨.servers, some "rs"⟩, ⟨some "rs", "id"⟩, ⟨some "r", "resource_server_id"⟩⟩
        [(some "r", r.fields)] = [roleScope t r] := fun r =>
    Join.extend_servers r.server rfl (fun _ => rfl) fun _ => rfl
  change ((t.roles.map (·.fields)).map fun r => [(some "r", r)]).flatMap (Join.extend t _) = _
  rw [List.map_map, List.flatMap_map]
  simp only [Function.comp_def, hjoin]
  exact List.flatMap_pure_eq_map ..

/-- A row about a role that is granted, with the resource server that it is granted on. -/
theorem mem_rows_grantedPart {q : RoleQuery} {row : Row} :
    row ∈ q.grantedPart.rows t ↔ ∃ r ∈ t.roles, r.user = q.user ∧ r.status = approvedStatus ∧
      (∃ role ∈ q.granted, role.name = r.role) ∧
        row = roleRow r.role (r.server.bind t.urlOf) := by
  have hrow : ∀ r, q.grantedPart.row (roleScope t r) = roleRow r.role (r.server.bind t.urlOf) := by
    intro r
    have hurl : (r.server.bind t.urlOf) = (r.server.bind t.serverOf).map (·.url) := by
      cases r.server <;> rfl
    rw [hurl]
    unfold roleScope
    cases r.server.bind t.serverOf <;> rfl
  have hholds : ∀ r, q.grantedPart.condition.holds t (roleScope t r) = true ↔
      r.user = q.user ∧ r.status = approvedStatus ∧ ∃ role ∈ q.granted, role.name = r.role := by
    intro r
    simp [RoleQuery.grantedPart, Condition.holds, Term.eval, RoleRecord.fields, isEqual,
      isAmong]
  simp only [Select.rows, Select.scopes, candidates_grantedPart, List.mem_map, List.mem_filter]
  constructor
  · rintro ⟨_, ⟨⟨r, hr, rfl⟩, hcondition⟩, rfl⟩
    obtain ⟨huser, hstatus, hrole⟩ := (hholds r).mp hcondition
    exact ⟨r, hr, huser, hstatus, hrole, hrow r⟩
  · rintro ⟨r, hr, huser, hstatus, hrole, rfl⟩
    exact ⟨_, ⟨⟨r, hr, rfl⟩, (hholds r).mpr ⟨huser, hstatus, hrole⟩⟩, hrow r⟩

theorem mem_rows_delegatePart {q : RoleQuery} {row : Row} :
    row ∈ q.delegatePart.rows t ↔
      (∃ d ∈ t.delegations, d.delegate = q.user ∧ d.status = activeStatus) ∧
        row = roleRow Role.delegate.name none := by
  have hholds : q.delegatePart.condition.holds t [] = true ↔
      ∃ d ∈ t.delegations, d.delegate = q.user ∧ d.status = activeStatus := by
    simp [RoleQuery.delegatePart, RoleQuery.isNamed, Condition.holds, Term.eval, Scope.get,
      isEqual, Tables.records, DelegationRecord.fields]
  have hcandidates : q.delegatePart.candidates t = [[]] := rfl
  rw [← hholds, Select.rows, Select.scopes, hcandidates, List.filter_singleton]
  cases q.delegatePart.condition.holds t [] with
  | true =>
    have hrow : q.delegatePart.row [] = roleRow Role.delegate.name none := rfl
    simp [hrow]
  | false => simp

theorem rows_eq_nil_of_never {s : Select} (h : s.condition = .never) : s.rows t = [] := by
  simp [Select.rows, Select.scopes, h, Condition.holds]

/-- The rows of the whole statement are those of its two parts. -/
theorem mem_of_yields_roles {q : RoleQuery} {rows : List Row} (h : q.statement.Yields t rows)
    {row : Row} :
    row ∈ rows ↔ row ∈ q.grantedPart.rows t ∨ q.delegate = true ∧ row ∈ q.delegatePart.rows t := by
  have hgranted : q.granted.isEmpty = true → row ∉ q.grantedPart.rows t := by
    intro hempty hmem
    obtain ⟨_, _, _, _, ⟨role, hrole, _⟩, _⟩ := mem_rows_grantedPart.mp hmem
    rw [List.isEmpty_iff.mp hempty] at hrole
    cases hrole
  unfold RoleQuery.statement at h
  cases hg : q.granted.isEmpty with
  | false =>
    cases hd : q.delegate with
    | false =>
      rw [hg, hd] at h
      simp [h.mem_iff]
    | true =>
      rw [hg, hd] at h
      simp [h.mem_iff]
  | true =>
    cases hd : q.delegate with
    | false =>
      rw [hg, hd] at h
      have hnone := h.trans (List.Perm.of_eq (rows_eq_nil_of_never rfl))
      simp [hnone.eq_nil, hgranted hg]
    | true =>
      rw [hg, hd] at h
      simp [h.mem_iff, hgranted hg]

/-! ## Rows about clients -/

def clientRow (c : ClientRecord) : Row :=
  [(⟨"client_id", .uuid⟩, .text c.id.toText), (⟨"user_id", .uuid⟩, .text c.owner.toText),
    (⟨"client_secret", .text⟩, .text c.secretHash), (⟨"algorithm", .text⟩, .text c.algorithm)]

theorem clientOf_clientRow {c : ClientRecord} {a : SecretAlgorithm}
    (h : SecretAlgorithm.ofTag? c.algorithm = some a) :
    clientOf (clientRow c) = .ok ⟨c.id, c.owner, c.secretHash, a⟩ := by
  have htag : (clientRow c).text "algorithm" = .ok c.algorithm := Row.text_of_text rfl
  have hid : (clientRow c).uuid "client_id" = .ok c.id := Row.uuid_of_toText rfl
  have howner : (clientRow c).uuid "user_id" = .ok c.owner := Row.uuid_of_toText rfl
  have hsecret : (clientRow c).text "client_secret" = .ok c.secretHash := Row.text_of_text rfl
  simp only [clientOf, htag, algorithmOf, h, hid, howner, hsecret, bind, Except.bind]
  rfl

theorem mem_of_yields_client {id : Uuid} {rows : List Row} (h : (clientStatement id).Yields t rows)
    {row : Row} : row ∈ rows ↔ ∃ c ∈ t.clients, c.id = id ∧ row = clientRow c := by
  have hholds : ∀ c : ClientRecord, Condition.holds t [(none, c.fields)]
      (.equal (.field ⟨none, "client_id"⟩) (.value (.uuid id))) = true ↔ c.id = id := by
    intro c
    simp [Condition.holds, Term.eval, Scope.get, ClientRecord.fields, isEqual]
  rw [h.mem_iff]
  simp only [Select.rows, Select.scopes, Select.candidates, Tables.records, List.mem_map,
    List.mem_filter]
  constructor
  · rintro ⟨_, ⟨⟨_, ⟨c, hc, rfl⟩, rfl⟩, hcondition⟩, rfl⟩
    exact ⟨c, hc, (hholds c).mp hcondition, rfl⟩
  · rintro ⟨c, hc, hid, rfl⟩
    exact ⟨_, ⟨⟨_, ⟨c, hc, rfl⟩, rfl⟩, (hholds c).mpr hid⟩, rfl⟩

/-! ## Rows about delegations -/

/-- A row of delegations beside its resource server. -/
def grantScope (d : DelegationRecord) (s : ServerRecord) : Scope :=
  [(some "d", d.fields), (some "rs", s.fields)]

@[simp] theorem get_grantScope_delegation (d : DelegationRecord) (s : ServerRecord) (name : String) :
    (grantScope d s).get ⟨some "d", name⟩ = d.fields name := rfl

@[simp] theorem get_grantScope_server (d : DelegationRecord) (s : ServerRecord) (name : String) :
    (grantScope d s).get ⟨some "rs", name⟩ = s.fields name := rfl

def grantRow (d : DelegationRecord) (url : String) : Row :=
  [(⟨"id", .uuid⟩, .text d.id.toText), (⟨"delegator_user_id", .uuid⟩, .text d.delegator.toText),
    (⟨"delegate_user_id", .uuid⟩, .text d.delegate.toText), (⟨"role", .text⟩, .text d.role),
    (⟨"url", .text⟩, .text url)]

theorem grantOf_grantRow {d : DelegationRecord} {r : Role} (h : Role.parse? d.role = some r)
    (url : String) : grantOf (grantRow d url) = .ok ⟨d.id, d.delegator, d.delegate, r, url⟩ := by
  have hrole : (grantRow d url).text "role" = .ok d.role := Row.text_of_text rfl
  have hid : (grantRow d url).uuid "id" = .ok d.id := Row.uuid_of_toText rfl
  have hfrom : (grantRow d url).uuid "delegator_user_id" = .ok d.delegator := Row.uuid_of_toText rfl
  have hto : (grantRow d url).uuid "delegate_user_id" = .ok d.delegate := Row.uuid_of_toText rfl
  have hurl : (grantRow d url).text "url" = .ok url := Row.text_of_text rfl
  simp only [grantOf, hrole, hid, hfrom, hto, hurl, roleOf, h, bind, Except.bind]
  rfl

theorem mem_scopes_selectGrants {c : Condition} {scope : Scope} :
    scope ∈ (selectGrants c).scopes t ↔ ∃ d ∈ t.delegations, ∃ s, t.serverOf d.server = some s ∧
      scope = grantScope d s ∧ c.holds t scope = true := by
  have hjoin : ∀ d : DelegationRecord, Join.extend t
      ⟨.inner, ⟨.servers, some "rs"⟩, ⟨some "rs", "id"⟩, ⟨some "d", "resource_server_id"⟩⟩
        [(some "d", d.fields)] = ((t.serverOf d.server).map (grantScope d)).toList := fun d =>
    Join.extend_servers (some d.server) rfl (fun _ => rfl) fun _ => rfl
  have hcandidates : (selectGrants c).candidates t =
      t.delegations.flatMap fun d => ((t.serverOf d.server).map (grantScope d)).toList := by
    change ((t.delegations.map (·.fields)).map fun d =>
      [(some "d", d)]).flatMap (Join.extend t _) = _
    rw [List.map_map, List.flatMap_map]
    simp only [Function.comp_def, hjoin]
  simp only [Select.scopes, hcandidates, List.mem_filter, List.mem_flatMap, Option.mem_toList,
    Option.map_eq_some_iff]
  constructor
  · rintro ⟨⟨d, hd, s, hs, rfl⟩, hc⟩
    exact ⟨d, hd, s, hs, rfl, hc⟩
  · rintro ⟨d, hd, s, hs, rfl, hc⟩
    exact ⟨⟨d, hd, s, hs, rfl⟩, hc⟩

theorem mem_of_yields_grant {id delegate : Uuid} {rows : List Row}
    (h : (grantStatement id delegate).Yields t rows) {row : Row} :
    row ∈ rows ↔ ∃ d ∈ t.delegations, ∃ s, t.serverOf d.server = some s ∧
      (d.id = id ∧ d.delegate = delegate ∧ d.status = activeStatus) ∧ row = grantRow d s.url := by
  have hholds : ∀ d s, Condition.holds t (grantScope d s)
      (.both (grantField "id" (.uuid id)) <|
        .both (grantField "delegate_user_id" (.uuid delegate)) <|
          grantField "status" (.text activeStatus)) = true ↔
      d.id = id ∧ d.delegate = delegate ∧ d.status = activeStatus := by
    intro d s
    simp [Condition.holds, grantField, Term.eval, DelegationRecord.fields, isEqual]
  rw [h.mem_iff, Select.rows, List.mem_map]
  constructor
  · rintro ⟨scope, hscope, rfl⟩
    obtain ⟨d, hd, s, hs, rfl, hcondition⟩ := mem_scopes_selectGrants.mp hscope
    exact ⟨d, hd, s, hs, (hholds d s).mp hcondition, rfl⟩
  · rintro ⟨d, hd, s, hs, hfields, rfl⟩
    exact ⟨_, mem_scopes_selectGrants.mpr ⟨d, hd, s, hs, rfl, (hholds d s).mpr hfields⟩, rfl⟩

/-- A row of delegations lets the delegate act for a provider on the trust domain itself. -/
structure IsProviderGrant (t : Tables) (delegate provider : Uuid) (trustDomain : String)
    (d : DelegationRecord) (s : ServerRecord) : Prop where
  mem : d ∈ t.delegations
  server : t.serverOf d.server = some s
  delegate_eq : d.delegate = delegate
  delegator_eq : d.delegator = provider
  role_eq : d.role = Role.provider.name
  active : d.status = activeStatus
  isTrustDomain : ServerUrl.normalise s.url = ServerUrl.normalise trustDomain

/-- The reply is the row with the least identifier, or no row if there is none to choose from. -/
theorem rows_of_yields_providerGrant {delegate provider : Uuid} {trustDomain : String}
    {rows : List Row} (h : (providerGrantStatement delegate provider trustDomain).Yields t rows) :
    (rows = [] ∧ ∀ d s, ¬ IsProviderGrant t delegate provider trustDomain d s) ∨
      ∃ d s, IsProviderGrant t delegate provider trustDomain d s ∧ rows = [grantRow d s.url] ∧
        ∀ d' s', IsProviderGrant t delegate provider trustDomain d' s' →
          d.id.bits.toNat ≤ d'.id.bits.toNat := by
  obtain ⟨scopes, hperm, hsorted, rfl⟩ := h
  have hholds : ∀ d s, Condition.holds t (grantScope d s)
      (.both (grantField "delegate_user_id" (.uuid delegate)) <|
        .both (grantField "delegator_user_id" (.uuid provider)) <|
          .both (grantField "role" (.text Role.provider.name)) <|
            .both (grantField "status" (.text activeStatus)) (isOnServer trustDomain)) = true ↔
      d.delegate = delegate ∧ d.delegator = provider ∧ d.role = Role.provider.name ∧
        d.status = activeStatus ∧
          ServerUrl.normalise s.url = ServerUrl.normalise trustDomain := by
    intro d s
    simp [Condition.holds, grantField, isOnServer, Term.eval, DelegationRecord.fields,
      ServerRecord.fields, isEqual, onText, ← ServerUrl.normalise_eq]
  have hmem : ∀ scope, scope ∈ scopes ↔ ∃ d s,
      scope = grantScope d s ∧ IsProviderGrant t delegate provider trustDomain d s := by
    intro scope
    rw [hperm.mem_iff, mem_scopes_selectGrants]
    constructor
    · rintro ⟨d, hd, s, hs, rfl, hcondition⟩
      obtain ⟨hto, hfrom, hrole, hactive, hurl⟩ := (hholds d s).mp hcondition
      exact ⟨d, s, rfl, hd, hs, hto, hfrom, hrole, hactive, hurl⟩
    · rintro ⟨d, s, rfl, hd, hs, hto, hfrom, hrole, hactive, hurl⟩
      exact ⟨d, hd, s, hs, rfl, (hholds d s).mpr ⟨hto, hfrom, hrole, hactive, hurl⟩⟩
  cases scopes with
  | nil =>
    refine Or.inl ⟨rfl, fun d s hg => ?_⟩
    cases (hmem _).mpr ⟨d, s, rfl, hg⟩
  | cons scope scopes =>
    obtain ⟨d, s, rfl, hg⟩ := (hmem scope).mp List.mem_cons_self
    refine Or.inr ⟨d, s, hg, rfl, fun d' s' hg' => ?_⟩
    rcases List.mem_cons.mp ((hmem _).mpr ⟨d', s', rfl, hg'⟩) with heq | hrest
    · have hid : (grantScope d' s').get ⟨some "d", "id"⟩ =
          (grantScope d s).get ⟨some "d", "id"⟩ := by rw [heq]
      have hid : d'.id = d.id := Bound.uuid.inj (Option.some.inj hid)
      exact Nat.le_of_eq (by rw [hid])
    · exact List.rel_of_pairwise_cons hsorted hrest

end Relational

end Gatehouse.Store
