import Gatehouse.Proofs.Platform
import Gatehouse.Proofs.Store

/-!
# Resolving roles

The roles of a caller are exactly those that it asks for and holds: the platform administrator by
the settings alone, a delegate by an active grant, every other role by an approved row. The scope
has an entry for every scoped role among them, with exactly the resource servers of the approved
rows. Whatever a store answers, it can neither widen the request nor name the administrator
(`resolveRoles_exact`).
-/

namespace Gatehouse.Authorization

variable {policy : Policy} {caller : Principal} {requested : RoleSet} {granted : RoleScope}

/-! ## What storage adds -/

/-- A role of storage counts when it is asked for and is not the platform administrator's. -/
def isAdmitted (requested : RoleSet) (role : Role) : Bool :=
  role != .cosAdmin && requested.contains role

/-- The grants of storage that count. -/
def admitted (requested : RoleSet) (granted : RoleScope) : List (Role × List String) :=
  (granted.entries.filter fun e => isAdmitted requested e.1).map fun e => (e.1, e.2.toList)

/-- Adding what storage granted is granting what counts of it. -/
theorem addGranted_eq (requested : RoleSet) (i : Identity) (granted : RoleScope) :
    addGranted requested i granted = i.grantAll (admitted requested granted) := by
  unfold addGranted Identity.grantAll admitted
  rw [List.foldl_map, List.foldl_filter]
  congr 1
  funext i e
  obtain ⟨role, urls⟩ := e
  unfold isAdmitted
  cases hc : role == Role.cosAdmin <;> cases hr : requested.contains role <;> simp [bne, hc, hr]

theorem mem_admitted {role : Role} {urls : List String} :
    (role, urls) ∈ admitted requested granted ↔
      role ≠ .cosAdmin ∧ requested.contains role = true ∧
        ∃ t, granted.get role = some t ∧ t.toList = urls := by
  unfold admitted isAdmitted
  simp only [List.mem_map, List.mem_filter, Bool.and_eq_true, bne_iff_ne, ne_eq, Prod.mk.injEq]
  constructor
  · rintro ⟨⟨q, t⟩, ⟨hmem, hne, hreq⟩, rfl, rfl⟩
    exact ⟨hne, hreq, t, RoleScope.mem_entries.mp hmem, rfl⟩
  · rintro ⟨hne, hreq, t, ht, rfl⟩
    exact ⟨(role, t), ⟨RoleScope.mem_entries.mpr ht, hne, hreq⟩, rfl, rfl⟩

theorem exists_mem_admitted {role : Role} :
    (∃ e ∈ admitted requested granted, e.1 = role) ↔
      role ≠ .cosAdmin ∧ requested.contains role = true ∧ (granted.get role).isSome = true := by
  constructor
  · rintro ⟨⟨role, urls⟩, hmem, rfl⟩
    obtain ⟨hne, hreq, t, ht, -⟩ := mem_admitted.mp hmem
    exact ⟨hne, hreq, by rw [ht]; rfl⟩
  · rintro ⟨hne, hreq, hsome⟩
    obtain ⟨t, ht⟩ := Option.isSome_iff_exists.mp hsome
    exact ⟨(role, t.toList), mem_admitted.mpr ⟨hne, hreq, t, ht, rfl⟩, rfl⟩

/-! ## The identity before storage is asked -/

theorem hasRole_initialIdentity {role : Role} :
    (initialIdentity policy caller requested).hasRole role = true ↔
      role = .cosAdmin ∧ requested.contains .cosAdmin = true ∧
        policy.cosAdmin = some caller.user := by
  unfold initialIdentity isCosAdmin
  split
  · next h =>
    rw [Bool.and_eq_true, beq_iff_eq] at h
    rw [Identity.hasRole_grant]
    simp [h]
  · next h =>
    rw [Bool.and_eq_true, beq_iff_eq] at h
    simp [h]

theorem scope_initialIdentity (role : Role) :
    (initialIdentity policy caller requested).scope.get role = none := by
  unfold initialIdentity
  split
  · rw [Identity.scope_grant, Identity.scope_fresh, Identity.scope_fresh]
    simp [Role.isScoped]
  · exact Identity.scope_fresh ..

theorem user_initialIdentity :
    (initialIdentity policy caller requested).user = caller.user ∧
      (initialIdentity policy caller requested).displayName = caller.displayName := by
  unfold initialIdentity
  split
  · exact ⟨rfl, rfl⟩
  · exact ⟨rfl, rfl⟩

/-! ## The resolved identity -/

/-- The identity of a caller when storage answers with grants. -/
def resolved (policy : Policy) (caller : Principal) (requested : RoleSet) (granted : RoleScope) :
    Identity :=
  addGranted requested (initialIdentity policy caller requested) granted

theorem user_resolved :
    (resolved policy caller requested granted).user = caller.user ∧
      (resolved policy caller requested granted).displayName = caller.displayName := by
  obtain ⟨huser, hname⟩ := Identity.grantAll_user (initialIdentity policy caller requested)
    (admitted requested granted)
  unfold resolved
  rw [addGranted_eq, huser, hname]
  exact user_initialIdentity

/-- The administrator's role comes from the settings alone, every other one from storage. -/
theorem hasRole_resolved {role : Role} :
    (resolved policy caller requested granted).hasRole role = true ↔
      requested.contains role = true ∧
        if role = .cosAdmin then policy.cosAdmin = some caller.user
        else (granted.get role).isSome = true := by
  unfold resolved
  rw [addGranted_eq, Identity.hasRole_grantAll, hasRole_initialIdentity, exists_mem_admitted]
  by_cases h : role = .cosAdmin
  · simp [h]
  · simp [h]

theorem ne_cosAdmin_of_isScoped {role : Role} (h : role.isScoped = true) : role ≠ .cosAdmin := by
  rintro rfl
  cases h

/-- The scope has an entry for every scoped role held, and for no other role. -/
theorem isSome_scope_resolved {role : Role} :
    ((resolved policy caller requested granted).scope.get role).isSome = true ↔
      role.isScoped = true ∧ (resolved policy caller requested granted).hasRole role = true := by
  rw [hasRole_resolved]
  unfold resolved
  rw [addGranted_eq, Identity.isSome_scope_grantAll, scope_initialIdentity, exists_mem_admitted]
  constructor
  · rintro (h | ⟨hs, hne, hreq, hsome⟩)
    · cases h
    · exact ⟨hs, hreq, by rw [if_neg hne]; exact hsome⟩
  · rintro ⟨hs, hreq, h⟩
    have hne := ne_cosAdmin_of_isScoped hs
    rw [if_neg hne] at h
    exact Or.inr ⟨hs, hne, hreq, h⟩

theorem serves_resolved {role : Role} {url : String} :
    (resolved policy caller requested granted).Serves role url ↔
      role.isScoped = true ∧ requested.contains role = true ∧
        ∃ urls, granted.get role = some urls ∧ url ∈ urls := by
  unfold resolved
  rw [addGranted_eq, Identity.serves_grantAll]
  constructor
  · rintro (⟨urls, h, -⟩ | ⟨hs, ⟨q, urls⟩, hmem, rfl, hu⟩)
    · rw [scope_initialIdentity] at h
      cases h
    · obtain ⟨-, hreq, t, ht, rfl⟩ := mem_admitted.mp hmem
      exact ⟨hs, hreq, t, ht, hu⟩
  · rintro ⟨hs, hreq, urls, hget, hu⟩
    have hmem := mem_admitted.mpr ⟨ne_cosAdmin_of_isScoped hs, hreq, urls, hget, rfl⟩
    exact Or.inr ⟨hs, (role, urls.toList), hmem, rfl, hu⟩

/-! ## The stage -/

theorem needsStorage_iff :
    needsStorage requested = true ↔ ∃ role, role ≠ .cosAdmin ∧ requested.contains role = true := by
  unfold needsStorage RoleSet.toList
  simp only [List.any_eq_true, List.mem_filter, bne_iff_ne]
  constructor
  · rintro ⟨role, ⟨-, hreq⟩, hne⟩
    exact ⟨role, hne, hreq⟩
  · rintro ⟨role, hne, hreq⟩
    exact ⟨role, ⟨role.mem_all, hreq⟩, hne⟩

/-- When storage need not be asked, nothing that it could answer counts. -/
theorem addGranted_of_not_needsStorage (h : needsStorage requested = false) (i : Identity) :
    addGranted requested i granted = i := by
  rw [addGranted_eq]
  have hnone : admitted requested granted = [] := by
    rw [List.eq_nil_iff_forall_not_mem]
    rintro ⟨role, urls⟩ hmem
    -- A role that counts is one that storage would have been asked about.
    obtain ⟨hne, hreq, -⟩ := mem_admitted.mp hmem
    have hany := needsStorage_iff.mpr ⟨role, hne, hreq⟩
    rw [h] at hany
    cases hany
  rw [hnone]
  rfl

/-- The stage yields the resolved identity, whether or not storage has to be asked. -/
theorem outcome_resolveRoles {answer : (c : Call) → c.Answer}
    (h : (answer (.store (.roles caller.user requested)) : StoreCall.Answer _) = .ok granted) :
    Stage.outcome answer (resolveRoles policy caller requested) =
      .ok (resolved policy caller requested granted) := by
  unfold resolveRoles resolved
  dsimp only
  split
  · rw [Stage.outcome_bind, Stage.outcome_ofStore, h]
    rfl
  · next hn =>
    rw [Stage.outcome_pure, addGranted_of_not_needsStorage (by simpa using hn)]

/-- Whatever storage answers, a resolved identity is the caller's. -/
theorem user_of_resolveRoles {answer : (c : Call) → c.Answer} {i : Identity}
    (h : Stage.outcome answer (resolveRoles policy caller requested) = .ok i) :
    i.user = caller.user ∧ i.displayName = caller.displayName := by
  unfold resolveRoles at h
  dsimp only at h
  split at h
  · rw [Stage.outcome_bind] at h
    obtain ⟨granted, -, hi⟩ := bind_eq_ok.mp h
    cases hi
    exact user_resolved
  · cases h
    exact user_initialIdentity

/-- Storage is asked about the requested roles of the caller, or not at all. -/
theorem mem_calls_resolveRoles {answer : (c : Call) → c.Answer} {c : Call} :
    c ∈ Stage.calls answer (resolveRoles policy caller requested) ↔
      (∃ role, role ≠ .cosAdmin ∧ requested.contains role = true) ∧
        c = .store (.roles caller.user requested) := by
  rw [← needsStorage_iff]
  unfold resolveRoles
  dsimp only
  split
  · next hneeds =>
    rw [Stage.mem_calls_bind]
    constructor
    · rintro (hc | ⟨granted, -, hc⟩)
      · exact ⟨hneeds, List.mem_singleton.mp hc⟩
      · cases hc
    · rintro ⟨-, rfl⟩
      exact Or.inl List.mem_cons_self
  · next hneeds =>
    constructor
    · rintro ⟨⟩
    · rintro ⟨hneeds', -⟩
      exact absurd hneeds' hneeds

end Gatehouse.Authorization

namespace Gatehouse

/-- What makes a user hold a role on a platform. -/
def Platform.Holds (p : Platform) (user : Uuid) : Role → Prop
  | .cosAdmin => p.policy.cosAdmin = some user
  | .delegate => p.memory.IsDelegate user
  | role => p.memory.IsApproved user role

/-- What counts of the roles that a store in memory grants is what the caller holds. -/
theorem Platform.holds_iff (p : Platform) (user : Uuid) (role : Role) :
    p.Holds user role ↔
      if role = .cosAdmin then p.policy.cosAdmin = some user
      else (p.memory.grantedOn user role).isSome = true := by
  rw [Store.Memory.isSome_grantedOn]
  cases role with
  | cosAdmin => exact Iff.rfl
  | delegate => exact Iff.rfl
  | admin => exact Iff.rfl
  | provider => exact Iff.rfl
  | consumer => exact Iff.rfl

namespace Authorization

open Store

variable {p : Platform} {caller : Principal} {requested : RoleSet}

/-! ## Roles from a store in memory -/

/-- The identity of a caller when the store of a platform answers. -/
def identityOn (p : Platform) (caller : Principal) (requested : RoleSet) : Identity :=
  resolved p.policy caller requested (p.memory.grantedRoles caller.user requested)

theorem outcome_resolveRoles_of_answers (h : p.StoreAnswers) :
    Stage.outcome p.answer (resolveRoles p.policy caller requested) =
      .ok (identityOn p caller requested) :=
  outcome_resolveRoles (Platform.storeAnswer_eq h (.roles caller.user requested))

theorem hasRole_identityOn {role : Role} :
    (identityOn p caller requested).hasRole role = true ↔
      requested.contains role = true ∧ p.Holds caller.user role := by
  unfold identityOn
  rw [hasRole_resolved, p.holds_iff]
  refine and_congr_right fun hreq => ?_
  rw [Store.Memory.get_grantedRoles, if_pos hreq]

/-- A scoped role serves the resource servers that it was approved for. -/
theorem serves_identityOn {role : Role} {url : String} :
    (identityOn p caller requested).Serves role url ↔
      role.isScoped = true ∧ requested.contains role = true ∧
        p.memory.IsApprovedOn caller.user role url := by
  unfold identityOn
  rw [serves_resolved]
  refine and_congr_right fun hs => and_congr_right fun hreq => ?_
  rw [Store.Memory.get_grantedRoles, if_pos hreq]
  exact Store.Memory.mem_grantedOn hs

/-- A store that answers has the roles resolved that the caller asks for and holds, with an entry of
exactly the approved resource servers for each scoped one. A store that answers anything can neither
widen the request nor name the administrator, and entries are still for the scoped roles held. -/
theorem resolveRoles_exact (p : Platform) (caller : Principal) (requested : RoleSet) :
    (p.StoreAnswers → ∃ i,
      Stage.outcome p.answer (resolveRoles p.policy caller requested) = .ok i ∧
      i.user = caller.user ∧ i.displayName = caller.displayName ∧
      (∀ role, i.hasRole role = true ↔
        requested.contains role = true ∧ p.Holds caller.user role) ∧
      (∀ role, (i.scope.get role).isSome = true ↔
        role.isScoped = true ∧ i.hasRole role = true) ∧
      (∀ role url, i.Serves role url ↔
        role.isScoped = true ∧ requested.contains role = true ∧
          p.memory.IsApprovedOn caller.user role url)) ∧
    (∀ (answer : (c : Call) → c.Answer) (granted : RoleScope),
      (answer (.store (.roles caller.user requested)) : StoreCall.Answer _) = .ok granted → ∃ i,
      Stage.outcome answer (resolveRoles p.policy caller requested) = .ok i ∧
      (∀ role, i.hasRole role = true → requested.contains role = true) ∧
      (i.hasRole .cosAdmin = true ↔
        requested.contains .cosAdmin = true ∧ p.policy.cosAdmin = some caller.user) ∧
      (∀ role, (i.scope.get role).isSome = true ↔
        role.isScoped = true ∧ i.hasRole role = true)) := by
  constructor
  · intro hstore
    exact ⟨_, outcome_resolveRoles_of_answers hstore, user_resolved.1, user_resolved.2,
      fun role => hasRole_identityOn, fun role => isSome_scope_resolved,
      fun role url => serves_identityOn⟩
  · intro answer granted h
    refine ⟨_, outcome_resolveRoles h, fun role hr => (hasRole_resolved.mp hr).1, ?_,
      fun role => isSome_scope_resolved⟩
    rw [hasRole_resolved, if_pos rfl]

/-- A platform on which a consumer has rows of roles that storage may not grant, and asks for one
more. -/
def plantedPlatform : Platform where
  policy := ⟨some ⟨1⟩, "https://as.example"⟩
  provider _ := .error (.rejected .invalidToken)
  providerDelay _ := 0
  providerLimit := 1000
  memory := { roleRows := [⟨⟨7⟩, .cosAdmin, none, true⟩, ⟨⟨7⟩, .delegate, none, true⟩,
    ⟨⟨7⟩, .consumer, none, true⟩, ⟨⟨7⟩, .admin, none, false⟩] }
  storeLimit := 1000

theorem resolveRoles_exact_planted :
    plantedPlatform.StoreAnswers ∧ ∃ i,
      Stage.outcome plantedPlatform.answer (resolveRoles plantedPlatform.policy
        ⟨⟨7⟩, none, .clientCredentials⟩ (.ofList Role.all)) = .ok i ∧
      (∀ role, i.hasRole role = true ↔ role = .consumer) ∧
      (i.scope.get .consumer).isSome = true ∧ ∀ url, ¬ i.Serves .consumer url := by
  have hstore : plantedPlatform.StoreAnswers := ⟨rfl, Nat.zero_le _⟩
  obtain ⟨i, hout, -, -, hroles, hscope, hserves⟩ := (resolveRoles_exact plantedPlatform
    ⟨⟨7⟩, none, .clientCredentials⟩ (.ofList Role.all)).1 hstore
  have hrows : plantedPlatform.memory.roleRows = [⟨⟨7⟩, .cosAdmin, none, true⟩,
      ⟨⟨7⟩, .delegate, none, true⟩, ⟨⟨7⟩, .consumer, none, true⟩, ⟨⟨7⟩, .admin, none, false⟩] := rfl
  have hgrants : plantedPlatform.memory.delegations = [] := rfl
  have hasked : (RoleSet.ofList Role.all).contains .consumer = true := rfl
  have hconsumer : ∀ role, i.hasRole role = true ↔ role = .consumer := by
    intro role
    rw [hroles]
    cases role with
    | cosAdmin => simp [Platform.Holds, plantedPlatform]
    | delegate => simp [Platform.Holds, Memory.IsDelegate, hgrants]
    | admin => simp [Platform.Holds, Memory.IsApproved, hrows]
    | provider => simp [Platform.Holds, Memory.IsApproved, hrows]
    | consumer => simp [Platform.Holds, Memory.IsApproved, hrows, hasked]
  refine ⟨hstore, i, hout, hconsumer, (hscope _).mpr ⟨rfl, (hconsumer _).mpr rfl⟩, ?_⟩
  intro url h
  obtain ⟨-, -, row, hmem, -, -, -, hurl⟩ := (hserves _ _).mp h
  simp only [hrows, List.mem_cons, List.not_mem_nil, or_false] at hmem
  rcases hmem with rfl | rfl | rfl | rfl <;> cases hurl

end Authorization

end Gatehouse
