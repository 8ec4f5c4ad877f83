import Gatehouse.Identity
import Mathlib.Data.List.Sort

/-!
# Granting roles

What an identity holds after a list of grants: the roles granted (`hasRole_grantAll`), an entry in
its scope for every scoped role granted and for no other (`isSome_scope_grantAll`), and in the entry
exactly the resource servers granted with the role (`serves_grantAll`).
-/

namespace Gatehouse

/-- Sets with the same members are the same. -/
theorem TextSet.ext_mem {s t : TextSet} (h : ∀ x, x ∈ s ↔ x ∈ t) : s = t := by
  obtain ⟨l, hl⟩ := s
  obtain ⟨l', hl'⟩ := t
  have hsame : l = l' := hl.eq_of_mem_iff hl' h
  subst hsame
  rfl

theorem Role.mem_all (r : Role) : r ∈ Role.all := by
  cases r <;> decide

theorem RoleScope.mem_entries {s : RoleScope} {r : Role} {urls : TextSet} :
    (r, urls) ∈ s.entries ↔ s.get r = some urls := by
  unfold RoleScope.entries
  rw [List.mem_filterMap]
  constructor
  · rintro ⟨q, -, hq⟩
    obtain ⟨t, ht, heq⟩ := Option.map_eq_some_iff.mp hq
    obtain ⟨rfl, rfl⟩ := Prod.mk.inj heq
    exact ht
  · intro h
    exact ⟨r, r.mem_all, by rw [h]; rfl⟩

/-- A resource server is in the entry of a role. -/
def RoleScope.Lists (s : RoleScope) (r : Role) (url : String) : Prop :=
  ∃ urls, s.get r = some urls ∧ url ∈ urls

/-- Scopes with entries for the same roles, and the same resource servers in each, are the same. -/
theorem RoleScope.ext_lists {s t : RoleScope}
    (hroles : ∀ r, (s.get r).isSome = true ↔ (t.get r).isSome = true)
    (hurls : ∀ r url, s.Lists r url ↔ t.Lists r url) : s = t := by
  refine PerRole.ext_get fun r => ?_
  have hr := hroles r
  have hu := hurls r
  unfold RoleScope.Lists at hu
  cases hs : s.get r with
  | none =>
    rw [hs] at hr
    exact (Option.not_isSome_iff_eq_none.mp fun h => Bool.false_ne_true (hr.mpr h)).symm
  | some urls =>
    rw [hs] at hr hu
    obtain ⟨urls', ht⟩ := Option.isSome_iff_exists.mp (hr.mp rfl)
    rw [ht] at hu ⊢
    refine congrArg some (TextSet.ext_mem fun url => ?_)
    simpa using hu url

/-! ## Sets and maps from lists -/

theorem TextSet.ofList_toList (s : TextSet) : TextSet.ofList s.toList = s :=
  TextSet.ext_mem fun _ => TextSet.mem_ofList

theorem RoleSet.contains_ofList {l : List Role} {r : Role} :
    (RoleSet.ofList l).contains r = true ↔ r ∈ l := by
  have hfold : ∀ s : RoleSet, (l.foldl RoleSet.insert s).contains r = true ↔
      s.contains r = true ∨ r ∈ l := by
    induction l with
    | nil => simp
    | cons q l ih =>
      intro s
      rw [List.foldl_cons, ih, RoleSet.contains_insert, List.mem_cons]
      simp only [Bool.or_eq_true, decide_eq_true_eq]
      exact or_assoc.trans or_left_comm
  unfold RoleSet.ofList
  rw [hfold]
  simp

theorem RoleSet.ofList_toList (s : RoleSet) : RoleSet.ofList s.toList = s := by
  refine RoleSet.ext_contains fun r => ?_
  rw [Bool.eq_iff_iff, RoleSet.contains_ofList, RoleSet.toList, List.mem_filter]
  exact and_iff_right r.mem_all

theorem RoleScope.nodup_entries (s : RoleScope) : (s.entries.map Prod.fst).Nodup := by
  unfold RoleScope.entries
  rw [List.map_filterMap]
  refine List.Nodup.filterMap ?_ (by decide : Role.all.Nodup)
  intro q q' r hq hq'
  simp only [Option.map_map, Option.mem_def, Option.map_eq_some_iff, Function.comp_apply] at hq hq'
  obtain ⟨_, -, rfl⟩ := hq
  obtain ⟨_, -, hsame⟩ := hq'
  exact hsame.symm

theorem RoleScope.get_ofEntries {l : List (Role × TextSet)} (h : (l.map Prod.fst).Nodup) {r : Role}
    {urls : TextSet} : (RoleScope.ofEntries l).get r = some urls ↔ (r, urls) ∈ l := by
  have hfold : ∀ s : RoleScope, (l.foldl (fun s e => s.set e.1 (some e.2)) s).get r = some urls ↔
      (r, urls) ∈ l ∨ (∀ urls', (r, urls') ∉ l) ∧ s.get r = some urls := by
    induction l with
    | nil => simp
    | cons e l ih =>
      obtain ⟨q, t⟩ := e
      obtain ⟨hq, hl⟩ := List.nodup_cons.mp h
      intro s
      rw [List.foldl_cons, ih hl, PerRole.get_set]
      by_cases hrq : r = q
      · subst hrq
        have hno : ∀ urls', (r, urls') ∉ l := by
          intro urls' hmem
          exact hq (List.mem_map.mpr ⟨(r, urls'), hmem, rfl⟩)
        simp [hno, eq_comm]
      · simp [hrq]
  refine (hfold .empty).trans ?_
  simp [RoleScope.empty]

/-- The order in which entries are listed does not matter. -/
theorem RoleScope.ofEntries_of_perm {s : RoleScope} {l : List (Role × TextSet)}
    (h : l.Perm s.entries) : RoleScope.ofEntries l = s := by
  have hnodup : (l.map Prod.fst).Nodup := (h.map Prod.fst).nodup_iff.mpr s.nodup_entries
  refine PerRole.ext_get fun r => Option.ext fun urls => ?_
  rw [RoleScope.get_ofEntries hnodup, h.mem_iff, RoleScope.mem_entries]

namespace Identity

/-- A resource server is in the entry of a role. -/
def Serves (i : Identity) (r : Role) (url : String) : Prop :=
  ∃ urls, i.scope.get r = some urls ∧ url ∈ urls

/-- Identities that show the same are the same. -/
theorem ext_shown {i i' : Identity} (huser : i.user = i'.user)
    (hname : i.displayName = i'.displayName)
    (hroles : ∀ r, i.hasRole r = true ↔ i'.hasRole r = true)
    (hkeys : ∀ r, (i.scope.get r).isSome = true ↔ (i'.scope.get r).isSome = true)
    (hserves : ∀ r url, i.Serves r url ↔ i'.Serves r url) : i = i' := by
  have hset : i.roles = i'.roles := RoleSet.ext_contains fun r => Bool.eq_iff_iff.mpr (hroles r)
  have hscope : i.scope = i'.scope := RoleScope.ext_lists hkeys hserves
  obtain ⟨user, displayName, roles, scope⟩ := i
  obtain ⟨user', displayName', roles', scope'⟩ := i'
  rw [Identity.mk.injEq]
  exact ⟨huser, hname, hset, hscope⟩

/-- The identity after grants in order. -/
def grantAll (i : Identity) (l : List (Role × List String)) : Identity :=
  l.foldl (fun i e => i.grant e.1 e.2) i

@[simp] theorem hasRole_fresh (user : Uuid) (name : Option DisplayName) (r : Role) :
    (fresh user name).hasRole r = false := by
  simp [fresh, hasRole]

@[simp] theorem scope_fresh (user : Uuid) (name : Option DisplayName) (r : Role) :
    (fresh user name).scope.get r = none := by
  simp [fresh, RoleScope.empty]

/-! ## One grant -/

@[simp] theorem user_grant (i : Identity) (r : Role) (urls : List String) :
    (i.grant r urls).user = i.user := rfl

@[simp] theorem displayName_grant (i : Identity) (r : Role) (urls : List String) :
    (i.grant r urls).displayName = i.displayName := rfl

theorem hasRole_grant (i : Identity) (r q : Role) (urls : List String) :
    (i.grant r urls).hasRole q = true ↔ q = r ∨ i.hasRole q = true := by
  simp [grant, hasRole]

theorem scope_grant (i : Identity) (r q : Role) (urls : List String) :
    (i.grant r urls).scope.get q =
      if q = r ∧ r.isScoped = true then some (((i.scope.get r).getD .empty).insertMany urls)
      else i.scope.get q := by
  unfold grant RoleScope.extend
  by_cases hs : r.isScoped = true
  · simp [hs]
  · simp [hs]

theorem isSome_scope_grant (i : Identity) (r q : Role) (urls : List String) :
    ((i.grant r urls).scope.get q).isSome = true ↔
      (q = r ∧ r.isScoped = true) ∨ (i.scope.get q).isSome = true := by
  rw [scope_grant]
  split
  · next h => simp [h]
  · next h => simp [h]

theorem serves_grant (i : Identity) (r q : Role) (urls : List String) (url : String) :
    (i.grant r urls).Serves q url ↔
      (q = r ∧ r.isScoped = true ∧ url ∈ urls) ∨ i.Serves q url := by
  unfold Serves
  rw [scope_grant]
  split
  · next h =>
    obtain ⟨rfl, hs⟩ := h
    cases hq : i.scope.get q with
    | none => simp [hs]
    | some s => simp [hs, or_comm]
  · next h =>
    constructor
    · exact Or.inr
    · rintro (⟨hq, hs, -⟩ | hi)
      · exact absurd ⟨hq, hs⟩ h
      · exact hi

/-! ## Many grants -/

theorem grantAll_cons (i : Identity) (e : Role × List String) (l : List (Role × List String)) :
    i.grantAll (e :: l) = (i.grant e.1 e.2).grantAll l := rfl

theorem grantAll_user (i : Identity) (l : List (Role × List String)) :
    (i.grantAll l).user = i.user ∧ (i.grantAll l).displayName = i.displayName := by
  induction l generalizing i with
  | nil => exact ⟨rfl, rfl⟩
  | cons e l ih =>
    rw [grantAll_cons]
    exact ih (i.grant e.1 e.2)

/-- The roles held after grants are those held before and those granted. -/
theorem hasRole_grantAll (i : Identity) (l : List (Role × List String)) (q : Role) :
    (i.grantAll l).hasRole q = true ↔ i.hasRole q = true ∨ ∃ e ∈ l, e.1 = q := by
  induction l generalizing i with
  | nil => simp [grantAll]
  | cons e l ih =>
    rw [grantAll_cons, ih, hasRole_grant, eq_comm (a := q)]
    simp only [List.mem_cons, exists_eq_or_imp]
    exact or_assoc.trans or_left_comm

theorem isSome_scope_grantAll (i : Identity) (l : List (Role × List String)) (q : Role) :
    ((i.grantAll l).scope.get q).isSome = true ↔
      (i.scope.get q).isSome = true ∨ (q.isScoped = true ∧ ∃ e ∈ l, e.1 = q) := by
  induction l generalizing i with
  | nil => simp [grantAll]
  | cons e l ih =>
    rw [grantAll_cons, ih, isSome_scope_grant]
    simp only [List.mem_cons, exists_eq_or_imp]
    constructor
    · rintro ((⟨rfl, hs⟩ | hi) | ⟨hs, h⟩)
      · exact Or.inr ⟨hs, Or.inl rfl⟩
      · exact Or.inl hi
      · exact Or.inr ⟨hs, Or.inr h⟩
    · rintro (hi | ⟨hs, rfl | h⟩)
      · exact Or.inl (Or.inr hi)
      · exact Or.inl (Or.inl ⟨rfl, hs⟩)
      · exact Or.inr ⟨hs, h⟩

/-- The entry of a scoped role collects the resource servers of all its grants. -/
theorem serves_grantAll (i : Identity) (l : List (Role × List String)) (q : Role) (url : String) :
    (i.grantAll l).Serves q url ↔
      i.Serves q url ∨ (q.isScoped = true ∧ ∃ e ∈ l, e.1 = q ∧ url ∈ e.2) := by
  induction l generalizing i with
  | nil => simp [grantAll]
  | cons e l ih =>
    rw [grantAll_cons, ih, serves_grant]
    simp only [List.mem_cons, exists_eq_or_imp]
    constructor
    · rintro ((⟨rfl, hs, hu⟩ | hi) | ⟨hs, h⟩)
      · exact Or.inr ⟨hs, Or.inl ⟨rfl, hu⟩⟩
      · exact Or.inl hi
      · exact Or.inr ⟨hs, Or.inr h⟩
    · rintro (hi | ⟨hs, ⟨rfl, hu⟩ | h⟩)
      · exact Or.inl (Or.inr hi)
      · exact Or.inl (Or.inl ⟨rfl, hs, hu⟩)
      · exact Or.inr ⟨hs, h⟩

end Identity

end Gatehouse
