import Gatehouse.Identity.Json
import Gatehouse.Proofs.Identity

/-!
# Grants accumulate in any order

What grants leave of a fresh identity depends on which roles were granted and on which resource
servers, not on the order of the grants or on how often one was made (`grantAll_eq_iff`). Each
single grant keeps the entries of the scope in step with the roles (`WellScoped.grant`), and so do
all of them (`WellScoped.grantAll`).
-/

namespace Gatehouse

/-- The roles that have an entry, in the order in which entries are listed. -/
theorem RoleScope.keys_entries (s : RoleScope) :
    s.entries.map Prod.fst = Role.all.filter fun r => (s.get r).isSome := by
  unfold RoleScope.entries
  generalize Role.all = roles
  induction roles with
  | nil => rfl
  | cons r roles ih =>
    rw [List.filterMap_cons, List.filter_cons]
    cases s.get r with
    | none => simpa using ih
    | some urls => simpa using ih

namespace Identity

variable {i : Identity} {user : Uuid} {name : Option DisplayName}
  {l l' : List (Role × List String)}

/-! ## Roles and the keys of the scope -/

/-- The scope has an entry for each scoped role that is held, and for no other role. -/
def WellScoped (i : Identity) : Prop :=
  ∀ r, (i.scope.get r).isSome = true ↔ i.hasRole r = true ∧ r.isScoped = true

theorem wellScoped_fresh (user : Uuid) (name : Option DisplayName) :
    (fresh user name).WellScoped := by
  intro r
  simp

theorem WellScoped.grant (h : i.WellScoped) (r : Role) (urls : List String) :
    (i.grant r urls).WellScoped := by
  intro q
  rw [isSome_scope_grant, hasRole_grant, h q]
  constructor
  · rintro (⟨rfl, hscoped⟩ | ⟨hrole, hscoped⟩)
    · exact ⟨Or.inl rfl, hscoped⟩
    · exact ⟨Or.inr hrole, hscoped⟩
  · rintro ⟨rfl | hrole, hscoped⟩
    · exact Or.inl ⟨rfl, hscoped⟩
    · exact Or.inr ⟨hrole, hscoped⟩

theorem WellScoped.grantAll (h : i.WellScoped) (l : List (Role × List String)) :
    (i.grantAll l).WellScoped := by
  induction l generalizing i with
  | nil => exact h
  | cons e l ih =>
    rw [grantAll_cons]
    exact ih (h.grant e.1 e.2)

/-- The listed keys of the scope are the listed roles without those that are not scoped. -/
theorem WellScoped.keys_eq (h : i.WellScoped) :
    i.scope.entries.map Prod.fst = i.roles.toList.filter Role.isScoped := by
  rw [RoleScope.keys_entries, RoleSet.toList, List.filter_filter]
  apply List.filter_congr
  intro r _
  rw [Bool.eq_iff_iff, h r, Bool.and_eq_true, and_comm]
  rfl

/-! ## Lists that grant the same -/

/-- A role is granted in a list. -/
def Granted (l : List (Role × List String)) (r : Role) : Prop := ∃ urls, (r, urls) ∈ l

/-- A role is granted in a list on a resource server, perhaps with others. -/
def GrantedOn (l : List (Role × List String)) (r : Role) (url : String) : Prop :=
  ∃ urls, (r, urls) ∈ l ∧ url ∈ urls

theorem granted_iff {r : Role} : Granted l r ↔ ∃ e ∈ l, e.1 = r := by
  constructor
  · rintro ⟨urls, h⟩
    exact ⟨_, h, rfl⟩
  · rintro ⟨⟨_, urls⟩, h, rfl⟩
    exact ⟨urls, h⟩

theorem grantedOn_iff {r : Role} {url : String} :
    GrantedOn l r url ↔ ∃ e ∈ l, e.1 = r ∧ url ∈ e.2 := by
  constructor
  · rintro ⟨urls, h, hurl⟩
    exact ⟨_, h, rfl, hurl⟩
  · rintro ⟨⟨_, urls⟩, h, rfl, hurl⟩
    exact ⟨urls, h, hurl⟩

theorem hasRole_granted {r : Role} :
    ((fresh user name).grantAll l).hasRole r = true ↔ Granted l r := by
  rw [hasRole_grantAll, granted_iff]
  simp

theorem isSome_scope_granted {r : Role} :
    (((fresh user name).grantAll l).scope.get r).isSome = true ↔
      r.isScoped = true ∧ Granted l r := by
  rw [isSome_scope_grantAll, granted_iff]
  simp

theorem serves_granted {r : Role} {url : String} :
    ((fresh user name).grantAll l).Serves r url ↔ r.isScoped = true ∧ GrantedOn l r url := by
  rw [serves_grantAll, grantedOn_iff]
  simp [Serves]

/-- Two lists of grants leave the same identity exactly if they grant the same roles, and the scoped
ones on the same resource servers. -/
theorem grantAll_eq_iff :
    (fresh user name).grantAll l' = (fresh user name).grantAll l ↔
      (∀ r, Granted l' r ↔ Granted l r) ∧
      ∀ r url, r.isScoped = true → (GrantedOn l' r url ↔ GrantedOn l r url) := by
  constructor
  · intro h
    constructor
    · intro r
      have hrole : ((fresh user name).grantAll l').hasRole r = true ↔
          ((fresh user name).grantAll l).hasRole r = true := by rw [h]
      rwa [hasRole_granted, hasRole_granted] at hrole
    · intro r url hscoped
      have hserves : ((fresh user name).grantAll l').Serves r url ↔
          ((fresh user name).grantAll l).Serves r url := by rw [h]
      rw [serves_granted, serves_granted] at hserves
      simpa [hscoped] using hserves
  · rintro ⟨hroles, hurls⟩
    have hl := (fresh user name).grantAll_user l
    have hl' := (fresh user name).grantAll_user l'
    apply ext_shown (hl'.1.trans hl.1.symm) (hl'.2.trans hl.2.symm)
    · intro r
      rw [hasRole_granted, hasRole_granted, hroles]
    · intro r
      rw [isSome_scope_granted, isSome_scope_granted, hroles]
    · intro r url
      rw [serves_granted, serves_granted]
      exact and_congr_right (hurls r url)

/-- An entry in the scope has all the resource servers that its role was granted on. -/
theorem mem_scope_granted {r : Role} {held : TextSet} {url : String}
    (h : ((fresh user name).grantAll l).scope.get r = some held) :
    url ∈ held ↔ GrantedOn l r url := by
  have hscoped : r.isScoped = true :=
    (isSome_scope_granted.mp (Option.isSome_iff_exists.mpr ⟨held, h⟩)).1
  have hserves : ((fresh user name).grantAll l).Serves r url ↔ url ∈ held := by
    unfold Serves
    simp [h]
  rw [← hserves, serves_granted]
  exact and_iff_right hscoped

/-- Neither the order of grants nor how often one is made makes a difference. -/
theorem grantAll_congr (h : ∀ grant, grant ∈ l' ↔ grant ∈ l) :
    (fresh user name).grantAll l' = (fresh user name).grantAll l := by
  apply grantAll_eq_iff.mpr
  constructor
  · intro r
    exact exists_congr fun urls => h (r, urls)
  · intro r url _
    exact exists_congr fun urls => and_congr_left fun _ => h (r, urls)

/-- After grants in order, a fresh identity has the roles that were granted, and an entry in its
scope for each of the two scoped ones that was, with all the resource servers that were granted with
it; nothing else of it has changed. The same grants in another order, or some of them repeated,
leave the same identity, which is written as the same text. After each of the grants the keys of the
scope are the roles held that are scoped. -/
theorem grantAll_exact (user : Uuid) (name : Option DisplayName) (l : List (Role × List String)) :
    let i := (fresh user name).grantAll l
    i.user = user ∧ i.displayName = name ∧
    (∀ r, i.hasRole r = true ↔ Granted l r) ∧
    (∀ r, (i.scope.get r).isSome = true ↔ (r = .provider ∨ r = .consumer) ∧ Granted l r) ∧
    (∀ r held, i.scope.get r = some held → ∀ url, url ∈ held ↔ GrantedOn l r url) ∧
    (∀ l', (∀ grant, grant ∈ l' ↔ grant ∈ l) →
      (fresh user name).grantAll l' = i ∧
        ((fresh user name).grantAll l').toJson.render = i.toJson.render) ∧
    ∀ before, before <+: l →
      let j := (fresh user name).grantAll before
      j.scope.entries.map Prod.fst = j.roles.toList.filter Role.isScoped := by
  intro i
  have hsame := (fresh user name).grantAll_user l
  refine ⟨hsame.1, hsame.2, fun r => hasRole_granted, ?_, ?_, ?_, ?_⟩
  · intro r
    have hscoped : r.isScoped = true ↔ r = .provider ∨ r = .consumer := by
      cases r <;> decide
    rw [← hscoped]
    exact isSome_scope_granted
  · intro r held hheld url
    exact mem_scope_granted hheld
  · intro l' hl'
    have hidentity : (fresh user name).grantAll l' = i := grantAll_congr hl'
    exact ⟨hidentity, by rw [hidentity]⟩
  · intro before _
    exact ((wellScoped_fresh user name).grantAll before).keys_eq

/-- A provider on three servers, named in two grants, and an administrator, whose server is
dropped. -/
theorem grantAll_exact_repeated :
    let grants : List (Role × List String) :=
      [(.provider, ["b", "a"]), (.admin, ["x"]), (.provider, ["c"])]
    let again : List (Role × List String) :=
      [(.provider, ["c"]), (.provider, ["b", "a"]), (.admin, ["x"]), (.provider, ["c"])]
    let i := (fresh ⟨1⟩ none).grantAll grants
    (∀ grant, grant ∈ again ↔ grant ∈ grants) ∧ (fresh ⟨1⟩ none).grantAll again = i ∧
    ((fresh ⟨1⟩ none).grantAll again).toJson.render =
      "\x7b\"user_id\":\"00000000-0000-0000-0000-000000000001\"," ++
        "\"roles\":[\"ADMIN\",\"PROVIDER\"]," ++
        "\"role_scope\":\x7b\"PROVIDER\":[\"a\",\"b\",\"c\"]\x7d\x7d" ∧
    i.scope.get .provider = some (.ofList ["a", "b", "c"]) ∧
    (∀ url, url ∈ TextSet.ofList ["a", "b", "c"] ↔ GrantedOn grants .provider url) ∧
    grants.take 2 <+: grants ∧
    ((fresh ⟨1⟩ none).grantAll (grants.take 2)).scope.entries.map Prod.fst = [.provider] := by
  intro grants again i
  obtain ⟨-, -, -, -, hheld, hagain, hkeys⟩ := grantAll_exact ⟨1⟩ none grants
  have hmem : ∀ grant, grant ∈ again ↔ grant ∈ grants := by
    intro grant
    simp only [again, grants, List.mem_cons, List.not_mem_nil, or_false]
    tauto
  have hscope : i.scope.get .provider = some (.ofList ["a", "b", "c"]) := by decide
  have hprefix : grants.take 2 <+: grants := List.take_prefix 2 grants
  obtain ⟨hsame, htext⟩ := hagain again hmem
  refine ⟨hmem, hsame, ?_, hscope, hheld .provider _ hscope, hprefix, ?_⟩
  · rw [htext]
    decide +kernel
  · rw [hkeys _ hprefix]
    decide

end Identity

end Gatehouse
