import Gatehouse.Proofs.Admission
import Gatehouse.Proofs.Backends

/-!
# Replies about roles

The rows of a reply about roles are read all together or not at all: the first text in the place of
a role that names none fails the call (`rolesOf_of_isFirstUnnamed`). When every text names a role,
the reply comes to a tally of its rows, of which there is one only (`IsTally.unique`) and which the
order of the rows has no part in. An identity shows of that tally what was asked for, and a reply
that cannot be read leaves no identity at all (`grantedRoles_all_or_nothing`).
-/

namespace Gatehouse

/-- A text names a role, blank characters around it and the case of its letters apart. -/
def Role.IsNamedBy (r : Role) (s : String) : Prop :=
  Text.sameIgnoringCase r.name (Text.trim s) = true

instance (r : Role) (s : String) : Decidable (r.IsNamedBy s) :=
  inferInstanceAs (Decidable (_ = true))

theorem Role.IsNamedBy.unique {r q : Role} {s : String} (hr : r.IsNamedBy s)
    (hq : q.IsNamedBy s) : r = q := by
  unfold IsNamedBy Text.sameIgnoringCase at hr hq
  have hnames := (eq_of_beq hr).trans (eq_of_beq hq).symm
  revert hnames
  cases r <;> cases q <;> decide

theorem Role.parse?_eq_some {s : String} {r : Role} : Role.parse? s = some r ↔ r.IsNamedBy s := by
  have hnamed : ∀ {q}, Role.parse? s = some q → q.IsNamedBy s := by
    intro q hq
    have h := List.find?_some hq
    exact h
  constructor
  · exact hnamed
  · intro h
    have hsome : (Role.parse? s).isSome = true := by
      unfold parse?
      rw [List.find?_isSome]
      exact ⟨r, r.mem_all, h⟩
    obtain ⟨q, hq⟩ := Option.isSome_iff_exists.mp hsome
    rw [hq, (hnamed hq).unique h]

namespace Store.Relational

/-- The rows of a reply about roles: in each one the text in the place of the role, and the address
beside it, if there is one. -/
def replyRows (entries : List (String × Option String)) : List Row :=
  entries.map fun e => roleRow e.1 e.2

/-- What rows come to: an entry for every role that one of them names, with the addresses beside it
when the role is held on resource servers. -/
structure IsTally (entries : List (String × Option String)) (granted : RoleScope) : Prop where
  roles : ∀ r, (granted.get r).isSome = true ↔ ∃ e ∈ entries, r.IsNamedBy e.1
  urls : ∀ r url, granted.Lists r url ↔
    r.isScoped = true ∧ ∃ e ∈ entries, r.IsNamedBy e.1 ∧ e.2 = some url

/-- Every text in the place of a role names one. -/
def AreNamed (entries : List (String × Option String)) : Prop :=
  ∀ e ∈ entries, ∃ r : Role, r.IsNamedBy e.1

/-- A text is the first one that names no role. -/
def IsFirstUnnamed (entries : List (String × Option String)) (s : String) : Prop :=
  ∃ before url after, entries = before ++ (s, url) :: after ∧
    AreNamed before ∧ ∀ r : Role, ¬ r.IsNamedBy s

variable {entries entries' : List (String × Option String)} {granted granted' : RoleScope}
  {s : String} {url : Option String} {r : Role} {user : Uuid} {requested : RoleSet}
  {database : Statement → Reply}

theorem IsTally.unique (h : IsTally entries granted) (h' : IsTally entries granted') :
    granted = granted' :=
  RoleScope.ext_lists (fun r => (h.roles r).trans (h'.roles r).symm)
    fun r url => (h.urls r url).trans (h'.urls r url).symm

/-- Neither the order of rows counts nor how often one comes. -/
theorem IsTally.congr (h : IsTally entries granted) (hmem : ∀ e, e ∈ entries' ↔ e ∈ entries) :
    IsTally entries' granted := by
  constructor
  · intro r
    simp only [h.roles, hmem]
  · intro r url
    simp only [h.urls, hmem]

theorem exists_isFirstUnnamed (h : ¬ AreNamed entries) : ∃ s, IsFirstUnnamed entries s := by
  induction entries with
  | nil => exact absurd (List.forall_mem_nil _) h
  | cons e entries ih =>
    by_cases he : ∃ r : Role, r.IsNamedBy e.1
    · have hrest : ¬ AreNamed entries := fun hall => h (List.forall_mem_cons.mpr ⟨he, hall⟩)
      obtain ⟨s, before, url, after, rfl, hbefore, hs⟩ := ih hrest
      exact ⟨s, e :: before, url, after, rfl, List.forall_mem_cons.mpr ⟨he, hbefore⟩, hs⟩
    · exact ⟨e.1, [], e.2, entries, rfl, List.forall_mem_nil _, fun r hr => he ⟨r, hr⟩⟩

/-! ## Reading a reply -/

theorem entryOf_eq_ok {q : Role} {url' : Option String} :
    entryOf (roleRow s url) = .ok (q, url') ↔ q.IsNamedBy s ∧ url = url' := by
  rw [entryOf_roleRow_eq, map_eq_ok, ← Role.parse?_eq_some]
  unfold roleOf
  cases Role.parse? s with
  | none => simp
  | some r => simp

theorem entryOf_of_unnamed (h : ∀ r : Role, ¬ r.IsNamedBy s) :
    entryOf (roleRow s url) = .error (.corruptRow (Role.unknownMessage s)) := by
  have hnone : Role.parse? s = none :=
    Option.eq_none_iff_forall_ne_some.mpr fun r hr => h r (Role.parse?_eq_some.mp hr)
  rw [entryOf_roleRow_eq]
  unfold roleOf
  rw [hnone]
  rfl

theorem exists_entryOf_of_mem (h : AreNamed entries) :
    ∀ row ∈ replyRows entries, ∃ e, entryOf row = .ok e := by
  intro row hrow
  obtain ⟨e, he, rfl⟩ := List.mem_map.mp hrow
  obtain ⟨r, hr⟩ := h e he
  exact ⟨(r, e.2), entryOf_eq_ok.mpr ⟨hr, rfl⟩⟩

theorem exists_entryOf_iff {url' : Option String} :
    (∃ row ∈ replyRows entries, entryOf row = .ok (r, url')) ↔
      ∃ e ∈ entries, r.IsNamedBy e.1 ∧ e.2 = url' := by
  constructor
  · rintro ⟨row, hrow, he⟩
    obtain ⟨e, hmem, rfl⟩ := List.mem_map.mp hrow
    exact ⟨e, hmem, entryOf_eq_ok.mp he⟩
  · rintro ⟨e, hmem, he⟩
    exact ⟨_, List.mem_map_of_mem hmem, entryOf_eq_ok.mpr he⟩

theorem isTally_of_rolesOf (h : rolesOf (replyRows entries) = .ok granted) :
    IsTally entries granted := by
  constructor
  · intro r
    rw [isSome_rolesOf h]
    constructor
    · rintro ⟨row, hrow, url, he⟩
      obtain ⟨e, hmem, hnamed, -⟩ := exists_entryOf_iff.mp ⟨row, hrow, he⟩
      exact ⟨e, hmem, hnamed⟩
    · rintro ⟨e, hmem, hnamed⟩
      obtain ⟨row, hrow, he⟩ := exists_entryOf_iff.mpr ⟨e, hmem, hnamed, rfl⟩
      exact ⟨row, hrow, e.2, he⟩
  · intro r url
    rw [lists_rolesOf h, exists_entryOf_iff]

/-- The first text that names no role fails the reading, however many rows come before it. -/
theorem rolesOf_of_isFirstUnnamed (h : IsFirstUnnamed entries s) :
    rolesOf (replyRows entries) = .error (.corruptRow (Role.unknownMessage s)) := by
  obtain ⟨before, url, after, rfl, hbefore, hs⟩ := h
  -- The reading gets to this row with all that the rows before it come to, and loses it there.
  obtain ⟨granted, hgranted⟩ := exists_rolesOf (exists_entryOf_of_mem hbefore)
  unfold rolesOf replyRows at hgranted ⊢
  rw [List.map_append, List.map_cons, List.foldlM_append, hgranted]
  change List.foldlM addRoleRow granted (roleRow s url :: _) = _
  rw [List.foldlM_cons, addRoleRow_eq, entryOf_of_unnamed hs]
  rfl

theorem rolesOf_replyRows_eq_ok :
    rolesOf (replyRows entries) = .ok granted ↔
      AreNamed entries ∧ IsTally entries granted := by
  by_cases hnamed : AreNamed entries
  · obtain ⟨granted', hgranted'⟩ := exists_rolesOf (exists_entryOf_of_mem hnamed)
    have htally := isTally_of_rolesOf hgranted'
    constructor
    · intro h
      exact ⟨hnamed, isTally_of_rolesOf h⟩
    · rintro ⟨-, h⟩
      rw [hgranted', h.unique htally]
  · obtain ⟨s, hs⟩ := exists_isFirstUnnamed hnamed
    rw [rolesOf_of_isFirstUnnamed hs]
    constructor
    · rintro ⟨⟩
    · rintro ⟨h, -⟩
      exact absurd h hnamed

/-! ## Asking for roles -/

theorem isEmpty_plan_eq_false :
    (RoleQuery.plan user requested).isEmpty = false ↔
      Authorization.needsStorage requested = true := by
  have hdelegate : (RoleQuery.plan user requested).delegate = requested.contains .delegate := rfl
  rw [Authorization.needsStorage_iff, RoleQuery.isEmpty, Bool.and_eq_false_iff, hdelegate,
    Bool.not_eq_false', List.isEmpty_eq_false_iff_exists_mem]
  simp only [mem_granted_plan]
  constructor
  · rintro (⟨r, hr, hgranted⟩ | h)
    · refine ⟨r, ?_, hr⟩
      rintro rfl
      cases hgranted
    · exact ⟨.delegate, by decide, h⟩
  · rintro ⟨r, hne, hr⟩
    cases r with
    | cosAdmin => exact absurd rfl hne
    | delegate => exact Or.inr hr
    | admin => exact Or.inl ⟨_, hr, rfl⟩
    | provider => exact Or.inl ⟨_, hr, rfl⟩
    | consumer => exact Or.inl ⟨_, hr, rfl⟩

theorem answered_grantedRoles_of_reply (hplan : (RoleQuery.plan user requested).isEmpty = false)
    (hreply : database (RoleQuery.plan user requested).statement = .rows (replyRows entries)) :
    (grantedRoles user requested).answered database = rolesOf (replyRows entries) := by
  unfold grantedRoles fetch
  dsimp only
  rw [hplan]
  simp only [Bool.false_eq_true, if_false, Dialogue.answered, hreply]
  rfl

/-! ## From rows to an identity -/

/-- Answers to all calls, with the store in a database. -/
def answers (provider : (c : ProviderCall) → c.Answer) (database : Statement → Reply) :
    (c : Call) → c.Answer :=
  Call.answerFrom provider fun c => (answer c).answered database

/-- A row has a say about a role that is asked for, unless it is the administrator's. -/
def Counts (requested : RoleSet) (e : String × Option String) : Prop :=
  ∃ r : Role, r ≠ .cosAdmin ∧ requested.contains r = true ∧ r.IsNamedBy e.1

/-- What an identity shows of rows about its user. -/
structure IsShownOf (policy : Policy) (caller : Principal) (requested : RoleSet)
    (entries : List (String × Option String)) (i : Identity) : Prop where
  user : i.user = caller.user
  displayName : i.displayName = caller.displayName
  roles : ∀ r, i.hasRole r = true ↔ requested.contains r = true ∧
    if r = .cosAdmin then policy.cosAdmin = some caller.user else ∃ e ∈ entries, r.IsNamedBy e.1
  scope : ∀ r, (i.scope.get r).isSome = true ↔ r.isScoped = true ∧ i.hasRole r = true
  urls : ∀ r url, i.Serves r url ↔ r.isScoped = true ∧ requested.contains r = true ∧
    ∃ e ∈ entries, r.IsNamedBy e.1 ∧ e.2 = some url

variable {policy : Policy} {caller : Principal} {i i' : Identity}
  {provider : (c : ProviderCall) → c.Answer}

theorem IsShownOf.unique (h : IsShownOf policy caller requested entries i)
    (h' : IsShownOf policy caller requested entries i') : i = i' := by
  have hroles : ∀ r, i.hasRole r = true ↔ i'.hasRole r = true := fun r =>
    (h.roles r).trans (h'.roles r).symm
  apply Identity.ext_shown (h.user.trans h'.user.symm) (h.displayName.trans h'.displayName.symm)
    hroles
  · intro r
    rw [h.scope, h'.scope, hroles]
  · intro r url
    exact (h.urls r url).trans (h'.urls r url).symm

/-- Only rows that count are shown, in whatever order and however often they come. -/
theorem IsShownOf.congr (h : IsShownOf policy caller requested entries i)
    (hmem : ∀ e, Counts requested e → (e ∈ entries' ↔ e ∈ entries)) :
    IsShownOf policy caller requested entries' i := by
  -- Both a role that is held and an address beside it are found in rows that count.
  have hcounts : ∀ r, r ≠ .cosAdmin → requested.contains r = true → ∀ P : Option String → Prop,
      (∃ e ∈ entries', r.IsNamedBy e.1 ∧ P e.2) ↔ ∃ e ∈ entries, r.IsNamedBy e.1 ∧ P e.2 := by
    intro r hne hr P
    constructor
    · rintro ⟨e, he, hnamed, hp⟩
      exact ⟨e, (hmem e ⟨r, hne, hr, hnamed⟩).mp he, hnamed, hp⟩
    · rintro ⟨e, he, hnamed, hp⟩
      exact ⟨e, (hmem e ⟨r, hne, hr, hnamed⟩).mpr he, hnamed, hp⟩
  refine ⟨h.user, h.displayName, fun r => ?_, h.scope, fun r url => ?_⟩
  · rw [h.roles, and_congr_right_iff]
    intro hr
    by_cases hne : r = .cosAdmin
    · rw [if_pos hne, if_pos hne]
    · rw [if_neg hne, if_neg hne]
      simpa using (hcounts r hne hr fun _ => True).symm
  · rw [h.urls, and_congr_right_iff]
    intro hs
    rw [and_congr_right_iff]
    intro hr
    exact (hcounts r (Authorization.ne_cosAdmin_of_isScoped hs) hr (· = some url)).symm

theorem isShownOf_resolved (h : IsTally entries granted) :
    IsShownOf policy caller requested entries
      (Authorization.resolved policy caller requested granted) := by
  refine ⟨Authorization.user_resolved.1, Authorization.user_resolved.2, fun r => ?_,
    fun r => Authorization.isSome_scope_resolved, fun r url => ?_⟩
  · rw [Authorization.hasRole_resolved, h.roles]
  · rw [Authorization.serves_resolved, and_congr_right_iff]
    intro hs
    have hurls := h.urls r url
    rw [and_iff_right hs] at hurls
    rw [← hurls]
    rfl

section

variable (hplan : (RoleQuery.plan caller.user requested).isEmpty = false)
  (hreply :
    database (RoleQuery.plan caller.user requested).statement = .rows (replyRows entries))
  (policy provider)
include hplan hreply

theorem outcome_resolveRoles_of_reply :
    Stage.outcome (answers provider database)
        (Authorization.resolveRoles policy caller requested) =
      ((rolesOf (replyRows entries)).mapError fun fault => ⟨.internal fault.message, none⟩).map
        (Authorization.resolved policy caller requested) := by
  unfold Authorization.resolveRoles Authorization.resolved
  dsimp only
  rw [if_pos (isEmpty_plan_eq_false.mp hplan), Stage.outcome_bind, Stage.outcome_ofStore,
    ← answered_grantedRoles_of_reply hplan hreply]
  rfl

theorem exists_isShownOf (hnamed : AreNamed entries) :
    ∃ i, IsShownOf policy caller requested entries i ∧
      Stage.outcome (answers provider database)
        (Authorization.resolveRoles policy caller requested) = .ok i := by
  obtain ⟨granted, hgranted⟩ := exists_rolesOf (exists_entryOf_of_mem hnamed)
  refine ⟨_, isShownOf_resolved (isTally_of_rolesOf hgranted), ?_⟩
  rw [outcome_resolveRoles_of_reply policy provider hplan hreply, hgranted]
  rfl

/-- One text that names no role is the end of the request. -/
theorem result_of_isFirstUnnamed {request : Request} (h : IsFirstUnnamed entries s)
    (hrequested : request.requested = requested)
    (hcaller : Stage.outcome (answers provider database)
      (Admission.authenticate (.ofHeaders request.headers) request.bootstrap) = .ok (some caller)) :
    ((Admission.run policy request).answered (answers provider database)).result =
      .error (.internal (StoreFault.corruptRow (Role.unknownMessage s)).message) := by
  have hroles := outcome_resolveRoles_of_reply policy provider hplan hreply
  rw [rolesOf_of_isFirstUnnamed h] at hroles
  rw [Admission.result_answered]
  unfold Admission.identify
  rw [Stage.outcome_bind, hcaller]
  change (Stage.outcome _ (some <$> Admission.authorize policy request caller)).mapError _ = _
  unfold Admission.authorize
  rw [Stage.outcome_map, Stage.outcome_bind, hrequested, hroles]
  rfl

end

/-- The rows of a reply are read when all of them name roles, to the one tally of them. Otherwise
the first that names none fails the call and the request. The order of the rows does not matter, nor
how often one comes; and a row about the administrator, or about a role that was not asked for,
changes nothing about the identity. -/
theorem grantedRoles_all_or_nothing (caller : Principal) (requested : RoleSet)
    (entries : List (String × Option String)) (database : Statement → Reply)
    (hplan : (RoleQuery.plan caller.user requested).isEmpty = false)
    (hreply :
      database (RoleQuery.plan caller.user requested).statement = .rows (replyRows entries)) :
    (∀ granted, (grantedRoles caller.user requested).answered database = .ok granted ↔
      AreNamed entries ∧ IsTally entries granted) ∧
    (AreNamed entries →
      (∃ granted, (grantedRoles caller.user requested).answered database = .ok granted) ∧
      ∀ policy provider, ∃ i, IsShownOf policy caller requested entries i ∧
        Stage.outcome (answers provider database)
          (Authorization.resolveRoles policy caller requested) = .ok i) ∧
    (¬ AreNamed entries → ∃ s, IsFirstUnnamed entries s) ∧
    (∀ s fault, IsFirstUnnamed entries s → fault = .corruptRow (Role.unknownMessage s) →
      (grantedRoles caller.user requested).answered database = .error fault ∧
      ∀ policy provider,
        Stage.outcome (answers provider database)
          (Authorization.resolveRoles policy caller requested) =
            .error ⟨.internal fault.message, none⟩ ∧
        ∀ request : Request, request.requested = requested →
          Stage.outcome (answers provider database)
            (Admission.authenticate (.ofHeaders request.headers) request.bootstrap) =
              .ok (some caller) →
          ((Admission.run policy request).answered (answers provider database)).result =
            .error (.internal fault.message)) ∧
    ∀ entries' database',
      database' (RoleQuery.plan caller.user requested).statement = .rows (replyRows entries') →
      ((∀ e, e ∈ entries' ↔ e ∈ entries) → ∀ granted,
        (grantedRoles caller.user requested).answered database' = .ok granted ↔
          (grantedRoles caller.user requested).answered database = .ok granted) ∧
      (AreNamed entries → AreNamed entries' →
        (∀ e, Counts requested e → (e ∈ entries' ↔ e ∈ entries)) → ∀ policy provider,
        Stage.outcome (answers provider database')
            (Authorization.resolveRoles policy caller requested) =
          Stage.outcome (answers provider database)
            (Authorization.resolveRoles policy caller requested)) := by
  have hcall := answered_grantedRoles_of_reply hplan hreply
  refine ⟨fun granted => ?_, fun hnamed => ⟨?_, fun policy provider => ?_⟩, exists_isFirstUnnamed,
    ?_, fun entries' database' hreply' => ⟨fun hmem granted => ?_, ?_⟩⟩
  · rw [hcall, rolesOf_replyRows_eq_ok]
  · rw [hcall]
    exact exists_rolesOf (exists_entryOf_of_mem hnamed)
  · exact exists_isShownOf policy provider hplan hreply hnamed
  · rintro s fault hfirst rfl
    have hroles := rolesOf_of_isFirstUnnamed hfirst
    refine ⟨hcall.trans hroles, fun policy provider => ⟨?_, ?_⟩⟩
    · rw [outcome_resolveRoles_of_reply policy provider hplan hreply, hroles]
      rfl
    · intro request hrequested hcaller
      exact result_of_isFirstUnnamed policy provider hplan hreply hfirst hrequested hcaller
  · rw [hcall, answered_grantedRoles_of_reply hplan hreply', rolesOf_replyRows_eq_ok,
      rolesOf_replyRows_eq_ok]
    constructor
    · rintro ⟨hnamed, htally⟩
      exact ⟨fun e he => hnamed e ((hmem e).mpr he), htally.congr fun e => (hmem e).symm⟩
    · rintro ⟨hnamed, htally⟩
      exact ⟨fun e he => hnamed e ((hmem e).mp he), htally.congr hmem⟩
  · intro hnamed hnamed' hcounts policy provider
    obtain ⟨i, hi, hout⟩ := exists_isShownOf policy provider hplan hreply hnamed
    obtain ⟨i', hi', hout'⟩ := exists_isShownOf policy provider hplan hreply' hnamed'
    rw [hout, hout', hi'.unique (hi.congr hcounts)]

/-- Rows as a database may hold them. -/
def spelledRows : List (String × Option String) :=
  [(" provider\n", some "https://rs.example"), ("Cos_Admin", none), ("PROVIDER", none),
    ("consumer", some "https://rs.example")]

/-- These rows make the caller a provider and nothing else, and one more about an owner after them
fails its request. -/
theorem grantedRoles_all_or_nothing_spelled :
    (∃ i, Stage.outcome (answers Admission.lendingPlatform.provider
        fun _ => .rows (replyRows spelledRows))
      (Authorization.resolveRoles Admission.lendingPlatform.policy
        ⟨⟨7⟩, some ⟨"Given", "Family"⟩, .bearerToken⟩ (.ofList [.provider, .cosAdmin])) = .ok i ∧
      i.Serves .provider "https://rs.example" ∧ i.hasRole .cosAdmin = false ∧
      i.hasRole .consumer = false) ∧
    ((Admission.run Admission.lendingPlatform.policy Admission.delegateRequest).answered
      (answers Admission.lendingPlatform.provider
        fun _ => .rows (replyRows (spelledRows ++ [("OWNER", none)])))).result =
      .error (.internal "corrupt row: unknown role: OWNER") := by
  have hnamed : AreNamed spelledRows := by
    intro e he
    simp only [spelledRows, List.mem_cons, List.not_mem_nil, or_false] at he
    rcases he with rfl | rfl | rfl | rfl
    · exact ⟨.provider, by decide +kernel⟩
    · exact ⟨.cosAdmin, by decide +kernel⟩
    · exact ⟨.provider, by decide +kernel⟩
    · exact ⟨.consumer, by decide +kernel⟩
  have howner : IsFirstUnnamed (spelledRows ++ [("OWNER", none)]) "OWNER" :=
    ⟨spelledRows, none, [], rfl, hnamed, fun r => by cases r <;> decide +kernel⟩
  constructor
  · obtain ⟨-, hread, -⟩ := grantedRoles_all_or_nothing
      ⟨⟨7⟩, some ⟨"Given", "Family"⟩, .bearerToken⟩ (.ofList [.provider, .cosAdmin]) spelledRows
      (fun _ => .rows (replyRows spelledRows)) rfl rfl
    obtain ⟨i, hi, hout⟩ := (hread hnamed).2 Admission.lendingPlatform.policy
      Admission.lendingPlatform.provider
    have hurl := (hi.urls .provider "https://rs.example").mpr
      ⟨rfl, rfl, _, List.mem_cons_self, by decide +kernel, rfl⟩
    refine ⟨i, hout, hurl, ?_, ?_⟩
    · rw [Bool.eq_false_iff]
      intro h
      cases ((hi.roles _).mp h).2
    · rw [Bool.eq_false_iff]
      intro h
      cases ((hi.roles _).mp h).1
  · obtain ⟨-, -, -, hfails, -⟩ := grantedRoles_all_or_nothing
      ⟨⟨7⟩, some ⟨"Given", "Family"⟩, .bearerToken⟩ (.ofList [.delegate])
      (spelledRows ++ [("OWNER", none)])
      (fun _ => .rows (replyRows (spelledRows ++ [("OWNER", none)]))) rfl rfl
    exact ((hfails _ _ howner rfl).2 _ Admission.lendingPlatform.provider).2
      Admission.delegateRequest rfl (by cbv)

end Store.Relational

end Gatehouse
