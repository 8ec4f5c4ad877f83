import Gatehouse.Proofs.Store
import Mathlib.Data.List.Induction

/-!
# What a store in memory knows from its past

Whatever was done to a store since it was empty, its answers follow from the list of what was done
(`answers_from_history`). A credential is that of the last insertion with its client id. A grant is
live as long as the last operation that decided about its id is the insertion of that very grant,
so that a revoked id comes to life again with the next insertion, perhaps for another delegate. The
other answers are put together from the live grants and from the approvals so far.
-/

namespace Gatehouse.Store

/-! ## Operations -/

/-- What may be done to a store in memory. -/
inductive Operation
  | grantRole (user : Uuid) (role : Role) (url : Option String)
  | requestRole (user : Uuid) (role : Role) (url : Option String)
  | insertClient (c : ClientCredential)
  | insertDelegation (g : DelegationGrant)
  | revokeDelegation (id : Uuid)
  | setAvailable (available : Bool)
  | lookUp (c : StoreCall)

/-- What is answered to an operation. -/
abbrev Operation.Result : Operation → Type
  | .revokeDelegation _ => Bool
  | .lookUp c => c.Answer
  | _ => Unit

namespace Operation

/-- Whether an operation is a lookup that adds to a number. -/
def counts (k : Counter) : Operation → Bool
  | .lookUp c => Counter.of c = k
  | _ => false

def StoresClient (id : Uuid) : Operation → Prop
  | .insertClient c => c.client = id
  | _ => False

/-- An operation decides whether there is a live grant with an id, and which. -/
def Decides (id : Uuid) : Operation → Prop
  | .insertDelegation g => g.id = id
  | .revokeDelegation other => other = id
  | _ => False

def Switches : Operation → Prop
  | .setAvailable _ => True
  | _ => False

end Operation

namespace Memory

/-- The store that an operation leaves, and what is answered to it. -/
def perform (m : Memory) : (op : Operation) → Memory × op.Result
  | .grantRole user role url => (m.grantRole user role url, ())
  | .requestRole user role url => (m.requestRole user role url, ())
  | .insertClient c => (m.insertClient c, ())
  | .insertDelegation g => (m.insertDelegation g, ())
  | .revokeDelegation id => (m.revokeDelegation id, m.hasDelegation id)
  | .setAvailable available => ({ m with available := available }, ())
  | .lookUp c => (m.count c, m.answer c)

/-- The store after a history that began with an empty one. -/
def after (history : List Operation) : Memory := history.foldl (fun m op => (m.perform op).1) {}

theorem after_concat (history : List Operation) (op : Operation) :
    after (history ++ [op]) = ((after history).perform op).1 := by
  unfold after
  rw [List.foldl_append, List.foldl_cons, List.foldl_nil]

end Memory

/-! ## The last operation about something -/

/-- An operation is the last one of a history that is about something. -/
def IsLast (about : Operation → Prop) (op : Operation) (history : List Operation) : Prop :=
  about op ∧ ∃ before later, history = before ++ op :: later ∧ ∀ o ∈ later, ¬ about o

variable {about : Operation → Prop} {op : Operation} {history : List Operation}

theorem not_isLast_nil : ¬ IsLast about op [] := by
  rintro ⟨-, before, later, h, -⟩
  simp at h

/-- The newest operation is the last one about something if it is about it, and else makes no
difference. -/
theorem isLast_concat {newest : Operation} :
    IsLast about op (history ++ [newest]) ↔
      about op ∧ op = newest ∨ ¬ about newest ∧ IsLast about op history := by
  constructor
  · rintro ⟨hop, before, later, h, hlater⟩
    rcases List.eq_nil_or_concat later with rfl | ⟨front, o, rfl⟩
    · have hlast := List.append_inj_right' h rfl
      exact Or.inl ⟨hop, by simpa using hlast.symm⟩
    · rw [List.concat_eq_append, ← List.cons_append, ← List.append_assoc] at h
      have hlast := List.append_inj_right' h rfl
      have hfront := List.append_inj_left' h rfl
      have ho : newest = o := by simpa using hlast
      subst ho
      refine Or.inr ⟨hlater newest (by simp), hop, before, front, hfront, ?_⟩
      intro o ho
      exact hlater o (by simp [ho])
  · rintro (⟨hop, rfl⟩ | ⟨hnewest, hop, before, later, rfl, hlater⟩)
    · exact ⟨hop, history, [], rfl, by simp⟩
    · refine ⟨hop, before, later ++ [newest], by simp, ?_⟩
      intro o ho
      rcases List.mem_append.mp ho with ho | ho
      · exact hlater o ho
      · rw [List.mem_singleton.mp ho]
        exact hnewest

/-- A property that holds at the end exactly when the last operation about something was a certain
one: it does not hold at first, and only operations about it make a difference. -/
theorem iff_isLast (holds : Memory → Prop) (hop : about op) (hempty : ¬ holds {})
    (hstep : ∀ m newest, holds (m.perform newest).1 ↔ op = newest ∨ ¬ about newest ∧ holds m)
    (history : List Operation) : holds (Memory.after history) ↔ IsLast about op history := by
  induction history using List.reverseRecOn with
  | nil => exact iff_of_false hempty not_isLast_nil
  | append_singleton history newest ih =>
    rw [Memory.after_concat, hstep, ih, isLast_concat]
    simp [hop]

/-! ## What a history tells -/

/-- The last thing that happened to the id of a grant is that this grant was inserted. -/
def IsLive (history : List Operation) (g : DelegationGrant) : Prop :=
  IsLast (Operation.Decides g.id) (.insertDelegation g) history

/-- A store was not switched off since it was last switched on. -/
def IsUp (history : List Operation) : Prop :=
  ¬ IsLast Operation.Switches (.setAvailable false) history

/-- A live grant lets its delegate act for a provider on the trust domain itself. -/
structure LendsProvider (history : List Operation) (delegate provider : Uuid)
    (trustDomain : String) (g : DelegationGrant) : Prop where
  live : IsLive history g
  delegate_eq : g.delegate = delegate
  delegator_eq : g.delegator = provider
  role_eq : g.role = .provider
  isTrustDomain : ServerUrl.normalise g.url = ServerUrl.normalise trustDomain

/-- A user holds a role by what was approved and delegated so far. -/
def HoldsRole (history : List Operation) (user : Uuid) : Role → Prop
  | .cosAdmin => False
  | .delegate => ∃ g, IsLive history g ∧ g.delegate = user
  | role => ∃ url, .grantRole user role url ∈ history

/-- What a lookup finds by what happened so far. -/
def Finds (history : List Operation) : (c : StoreCall) → c.Value → Prop
  | .client id, found => ∀ c, found = some c ↔
      c.client = id ∧ IsLast (Operation.StoresClient id) (.insertClient c) history
  | .grant id delegate, found => ∀ g, found = some g ↔
      g.id = id ∧ g.delegate = delegate ∧ IsLive history g
  | .providerGrant delegate provider trustDomain, found =>
      (∀ g, found = some g ↔ LendsProvider history delegate provider trustDomain g ∧
        ∀ other, LendsProvider history delegate provider trustDomain other →
          g.id.bits.toNat ≤ other.id.bits.toNat) ∧
      (found = none ↔ ∀ g, ¬ LendsProvider history delegate provider trustDomain g)
  | .roles user requested, found =>
      (∀ role, (found.get role).isSome = true ↔
        requested.contains role = true ∧ HoldsRole history user role) ∧
      ∀ role urls, found.get role = some urls → ∀ url, url ∈ urls ↔
        role.isScoped = true ∧ .grantRole user role (some url) ∈ history

namespace Memory

variable {m : Memory}

/-! ## What one operation changes -/

theorem mem_roleRows_perform {user : Uuid} {role : Role} {url : Option String} :
    ⟨user, role, url, true⟩ ∈ (m.perform op).1.roleRows ↔
      ⟨user, role, url, true⟩ ∈ m.roleRows ∨ op = .grantRole user role url := by
  cases op with
  | grantRole u r l => simp [perform, grantRole, addRole, eq_comm]
  | requestRole u r l => simp [perform, requestRole, addRole]
  | insertClient c => simp [perform, insertClient]
  | insertDelegation g => simp [perform, insertDelegation]
  | revokeDelegation id => simp [perform, revokeDelegation]
  | setAvailable b => simp [perform]
  | lookUp c => simp [perform, count]

theorem mem_clients_perform {c : ClientCredential} :
    c ∈ (m.perform op).1.clients ↔
      .insertClient c = op ∨ ¬ op.StoresClient c.client ∧ c ∈ m.clients := by
  cases op with
  | insertClient other =>
    simp only [perform, insertClient, List.mem_cons, List.mem_filter, Operation.StoresClient,
      Operation.insertClient.injEq]
    have hne : (c.client != other.client) = true ↔ ¬ other.client = c.client :=
      bne_iff_ne.trans ne_comm
    rw [hne, and_comm]
  | grantRole u r l => simp [perform, grantRole, addRole, Operation.StoresClient]
  | requestRole u r l => simp [perform, requestRole, addRole, Operation.StoresClient]
  | insertDelegation g => simp [perform, insertDelegation, Operation.StoresClient]
  | revokeDelegation id => simp [perform, revokeDelegation, Operation.StoresClient]
  | setAvailable b => simp [perform, Operation.StoresClient]
  | lookUp c => simp [perform, count, Operation.StoresClient]

theorem revokedRow_eq_active {id : Uuid} {row : DelegationRow} {g : DelegationGrant} :
    revokedRow id row = ⟨g, true⟩ ↔ row = ⟨g, true⟩ ∧ ¬ id = g.id := by
  obtain ⟨grant, active⟩ := row
  unfold revokedRow
  by_cases h : grant.id = id
  · subst h
    simp only [beq_self_eq_true, ↓reduceIte, DelegationRow.mk.injEq, Bool.false_eq_true, and_false,
      false_iff, not_and, not_not]
    rintro ⟨rfl, -⟩
    rfl
  · simp only [beq_iff_eq, h, ↓reduceIte, DelegationRow.mk.injEq]
    constructor
    · rintro ⟨rfl, hactive⟩
      exact ⟨⟨rfl, hactive⟩, fun heq => h heq.symm⟩
    · exact fun hrow => hrow.1

theorem active_perform {g : DelegationGrant} :
    ⟨g, true⟩ ∈ (m.perform op).1.delegations ↔
      .insertDelegation g = op ∨ ¬ op.Decides g.id ∧ ⟨g, true⟩ ∈ m.delegations := by
  cases op with
  | insertDelegation other =>
    simp only [perform, insertDelegation, List.mem_cons, List.mem_filter, Operation.Decides,
      Operation.insertDelegation.injEq, DelegationRow.mk.injEq, and_true]
    have hne : (g.id != other.id) = true ↔ ¬ other.id = g.id := bne_iff_ne.trans ne_comm
    rw [hne, and_comm]
  | revokeDelegation id =>
    simp only [perform, revokeDelegation, List.mem_map, revokedRow_eq_active, Operation.Decides,
      reduceCtorEq, false_or]
    constructor
    · rintro ⟨row, hrow, rfl, hid⟩
      exact ⟨hid, hrow⟩
    · rintro ⟨hid, hrow⟩
      exact ⟨_, hrow, rfl, hid⟩
  | grantRole u r l => simp [perform, grantRole, addRole, Operation.Decides]
  | requestRole u r l => simp [perform, requestRole, addRole, Operation.Decides]
  | insertClient c => simp [perform, insertClient, Operation.Decides]
  | setAvailable b => simp [perform, Operation.Decides]
  | lookUp c => simp [perform, count, Operation.Decides]

/-- A revoked delegation is still known, and a delegation that is replaced by another one is known
under the same id. -/
theorem hasDelegation_perform {id : Uuid} :
    (m.perform op).1.hasDelegation id = true ↔
      m.hasDelegation id = true ∨ ∃ g, op = .insertDelegation g ∧ g.id = id := by
  simp only [hasDelegation, List.any_eq_true, beq_iff_eq]
  cases op with
  | insertDelegation g =>
    simp only [perform, insertDelegation, List.mem_cons, List.mem_filter,
      Operation.insertDelegation.injEq]
    constructor
    · rintro ⟨row, rfl | ⟨hrow, -⟩, hid⟩
      · exact Or.inr ⟨g, rfl, hid⟩
      · exact Or.inl ⟨row, hrow, hid⟩
    · rintro (⟨row, hrow, hid⟩ | ⟨other, rfl, hid⟩)
      · by_cases hsame : row.grant.id = g.id
        · exact ⟨⟨g, true⟩, Or.inl rfl, hsame ▸ hid⟩
        · exact ⟨row, Or.inr ⟨hrow, by simpa using hsame⟩, hid⟩
      · exact ⟨⟨g, true⟩, Or.inl rfl, hid⟩
  | revokeDelegation other => simp [perform, revokeDelegation]
  | grantRole u r l => simp [perform, grantRole, addRole]
  | requestRole u r l => simp [perform, requestRole, addRole]
  | insertClient c => simp [perform, insertClient]
  | setAvailable b => simp [perform]
  | lookUp c => simp [perform, count]

theorem unavailable_perform :
    ¬ (m.perform op).1.available = true ↔
      .setAvailable false = op ∨ ¬ op.Switches ∧ ¬ m.available = true := by
  cases op with
  | setAvailable b => cases b <;> simp [perform, Operation.Switches]
  | grantRole u r l => simp [perform, grantRole, addRole, Operation.Switches]
  | requestRole u r l => simp [perform, requestRole, addRole, Operation.Switches]
  | insertClient c => simp [perform, insertClient, Operation.Switches]
  | insertDelegation g => simp [perform, insertDelegation, Operation.Switches]
  | revokeDelegation id => simp [perform, revokeDelegation, Operation.Switches]
  | lookUp c => simp [perform, count, Operation.Switches]

theorem get_counts_perform (k : Counter) :
    (m.perform op).1.counts.get k = m.counts.get k + if op.counts k then 1 else 0 := by
  cases op with
  | lookUp c =>
    simp only [perform, count, CallCounts.get_count, Operation.counts, decide_eq_true_eq]
  | grantRole u r l => rfl
  | requestRole u r l => rfl
  | insertClient c => rfl
  | insertDelegation g => rfl
  | revokeDelegation id => rfl
  | setAvailable b => rfl

/-! ## What a history leaves -/

theorem mem_roleRows_after {user : Uuid} {role : Role} {url : Option String} :
    ⟨user, role, url, true⟩ ∈ (after history).roleRows ↔
      .grantRole user role url ∈ history := by
  induction history using List.reverseRecOn with
  | nil => simp [after]
  | append_singleton history newest ih =>
    rw [after_concat, mem_roleRows_perform, ih, List.mem_append, List.mem_singleton,
      eq_comm (a := newest)]

theorem mem_clients_after {c : ClientCredential} :
    c ∈ (after history).clients ↔
      IsLast (Operation.StoresClient c.client) (.insertClient c) history := by
  have hc : Operation.StoresClient c.client (.insertClient c) := rfl
  exact iff_isLast (fun m => c ∈ m.clients) hc (by simp) (fun m newest => mem_clients_perform)
    history

theorem active_after {g : DelegationGrant} :
    ⟨g, true⟩ ∈ (after history).delegations ↔ IsLive history g := by
  have hg : Operation.Decides g.id (.insertDelegation g) := rfl
  exact iff_isLast (fun m => ⟨g, true⟩ ∈ m.delegations) hg (by simp)
    (fun m newest => active_perform) history

theorem available_after : (after history).available = true ↔ IsUp history := by
  have hdown : ¬ (after history).available = true ↔
      IsLast Operation.Switches (.setAvailable false) history :=
    iff_isLast (fun m => ¬ m.available = true) trivial (by simp)
      (fun m newest => unavailable_perform) history
  unfold IsUp
  rw [← hdown, not_not]

theorem hasDelegation_after {id : Uuid} :
    (after history).hasDelegation id = true ↔
      ∃ g, .insertDelegation g ∈ history ∧ g.id = id := by
  induction history using List.reverseRecOn with
  | nil => simp [after, hasDelegation]
  | append_singleton history newest ih =>
    rw [after_concat, hasDelegation_perform, ih]
    simp only [List.mem_append, List.mem_singleton, or_and_right, exists_or, eq_comm (a := newest)]

theorem get_counts_after (history : List Operation) (k : Counter) :
    (after history).counts.get k = history.countP (·.counts k) := by
  induction history using List.reverseRecOn with
  | nil => cases k <;> rfl
  | append_singleton history newest ih =>
    rw [after_concat, get_counts_perform, ih, List.countP_append, List.countP_singleton]

/-! ## Lookups -/

theorem isApproved_after {user : Uuid} {role : Role} :
    (after history).IsApproved user role ↔ ∃ url, .grantRole user role url ∈ history := by
  simp only [← mem_roleRows_after, IsApproved]
  constructor
  · rintro ⟨⟨u, r, url, approved⟩, hrow, rfl, rfl, rfl⟩
    exact ⟨url, hrow⟩
  · rintro ⟨url, hrow⟩
    exact ⟨_, hrow, rfl, rfl, rfl⟩

theorem isApprovedOn_after {user : Uuid} {role : Role} {url : String} :
    (after history).IsApprovedOn user role url ↔ .grantRole user role (some url) ∈ history := by
  rw [← mem_roleRows_after, IsApprovedOn]
  constructor
  · rintro ⟨⟨u, r, l, approved⟩, hrow, rfl, rfl, rfl, rfl⟩
    exact hrow
  · intro hrow
    exact ⟨_, hrow, rfl, rfl, rfl, rfl⟩

theorem isDelegate_after {user : Uuid} :
    (after history).IsDelegate user ↔ ∃ g, IsLive history g ∧ g.delegate = user := by
  simp only [← active_after, IsDelegate]
  constructor
  · rintro ⟨⟨g, active⟩, hrow, rfl, hdelegate⟩
    exact ⟨g, hrow, hdelegate⟩
  · rintro ⟨g, hrow, hdelegate⟩
    exact ⟨_, hrow, rfl, hdelegate⟩

theorem isProviderGrant_after {delegate provider : Uuid} {trustDomain : String}
    {g : DelegationGrant} :
    (after history).IsProviderGrant delegate provider trustDomain g ↔
      LendsProvider history delegate provider trustDomain g := by
  constructor
  · intro h
    exact ⟨active_after.mp h.mem, h.delegate_eq, h.delegator_eq, h.role_eq, h.isTrustDomain⟩
  · intro h
    exact ⟨active_after.mpr h.live, h.delegate_eq, h.delegator_eq, h.role_eq, h.isTrustDomain⟩

theorem finds_roles (user : Uuid) (requested : RoleSet) :
    Finds history (.roles user requested) ((after history).grantedRoles user requested) := by
  have hsome : ∀ role, ((after history).grantedOn user role).isSome = true ↔
      HoldsRole history user role := by
    intro role
    rw [isSome_grantedOn]
    cases role with
    | cosAdmin => rfl
    | delegate => exact isDelegate_after
    | admin => exact isApproved_after
    | provider => exact isApproved_after
    | consumer => exact isApproved_after
  constructor
  · intro role
    rw [get_grantedRoles, ← hsome]
    cases requested.contains role <;> simp
  · intro role urls h url
    rw [get_grantedRoles, Option.ite_none_right_eq_some] at h
    obtain ⟨-, h⟩ := h
    cases hscoped : role.isScoped with
    | false => simp [eq_empty_of_grantedOn hscoped h]
    | true =>
      have hon : (∃ urls, (after history).grantedOn user role = some urls ∧ url ∈ urls) ↔
          (after history).IsApprovedOn user role url := mem_grantedOn hscoped
      rw [h, isApprovedOn_after] at hon
      simpa using hon

theorem finds_providerGrant (delegate provider : Uuid) (trustDomain : String) :
    Finds history (.providerGrant delegate provider trustDomain)
      ((after history).providerGrant delegate provider trustDomain) := by
  have hfound : ∀ g, (after history).providerGrant delegate provider trustDomain = some g →
      LendsProvider history delegate provider trustDomain g ∧
        ∀ other, LendsProvider history delegate provider trustDomain other →
          g.id.bits.toNat ≤ other.id.bits.toNat := by
    intro g hg
    obtain ⟨hmem, hleast⟩ := leastGrant?_eq_some hg
    have hmem_iff : ∀ g, g ∈ ((after history).activeGrants delegate).filter (fun g =>
        g.delegator == provider && g.role == .provider && ServerUrl.same g.url trustDomain) ↔
          LendsProvider history delegate provider trustDomain g := by
      intro g
      simp only [← isProviderGrant_after, List.mem_filter, mem_activeGrants, Bool.and_eq_true,
        beq_iff_eq, ServerUrl.same]
      constructor
      · rintro ⟨⟨hrow, hto⟩, ⟨hfrom, hrole⟩, hurl⟩
        exact ⟨hrow, hto, hfrom, hrole, hurl⟩
      · rintro ⟨hrow, hto, hfrom, hrole, hurl⟩
        exact ⟨⟨hrow, hto⟩, ⟨hfrom, hrole⟩, hurl⟩
    refine ⟨(hmem_iff g).mp hmem, ?_⟩
    intro other hother
    exact hleast other ((hmem_iff other).mpr hother)
  constructor
  · intro g
    refine ⟨hfound g, ?_⟩
    rintro ⟨hg, hleast⟩
    refine providerGrant_of_least (isProviderGrant_after.mpr hg) ?_
    intro other hother
    exact hleast other (isProviderGrant_after.mp hother)
  · rw [← Option.not_isSome_iff_eq_none, isSome_providerGrant, not_exists]
    refine forall_congr' fun g => not_congr ?_
    rw [← isProviderGrant_after]
    constructor
    · rintro ⟨hrow, hto, hfrom, hrole, hurl⟩
      exact ⟨hrow, hto, hfrom, hrole, hurl⟩
    · rintro ⟨hrow, hto, hfrom, hrole, hurl⟩
      exact ⟨hrow, hto, hfrom, hrole, hurl⟩

theorem finds_after (history : List Operation) (c : StoreCall) :
    Finds history c ((after history).find c) := by
  cases c with
  | roles user requested => exact finds_roles user requested
  | client id =>
    intro c
    rw [find, clientById_eq_some, mem_clients_after]
    constructor
    · rintro ⟨hlast, rfl⟩
      exact ⟨rfl, hlast⟩
    · rintro ⟨rfl, hlast⟩
      exact ⟨hlast, rfl⟩
  | grant id delegate =>
    intro g
    rw [find, grantById_eq_some, active_after]
    constructor
    · rintro ⟨hlive, hdelegate, hid⟩
      exact ⟨hid, hdelegate, hlive⟩
    · rintro ⟨hid, hdelegate, hlive⟩
      exact ⟨hlive, hdelegate, hid⟩
  | providerGrant delegate provider trustDomain =>
    exact finds_providerGrant delegate provider trustDomain

/-- After any history, a store that is up finds what its history tells and one that is switched off
finds nothing; a revocation tells whether the id was ever inserted; and every lookup so far is
counted, answered or not. -/
theorem answers_from_history (history : List Operation) :
    (∀ c : StoreCall, ∃ found, Finds history c found ∧
      ((after history).perform (.lookUp c)).2 =
        if (after history).available then .ok found else .error (.database .poolTimedOut)) ∧
    ((after history).available = true ↔ IsUp history) ∧
    (∀ id, ((after history).perform (.revokeDelegation id)).2 = true ↔
      ∃ g, .insertDelegation g ∈ history ∧ g.id = id) ∧
    ∀ k, (after history).counts.get k = history.countP (·.counts k) := by
  refine ⟨?_, available_after, ?_, get_counts_after history⟩
  · intro c
    exact ⟨(after history).find c, finds_after history c, rfl⟩
  · intro id
    exact hasDelegation_after

/-- An id that was revoked may be taken over by another delegate. -/
example : ((after [.insertDelegation ⟨⟨1⟩, ⟨2⟩, ⟨3⟩, .consumer, "rs"⟩, .revokeDelegation ⟨1⟩,
    .insertDelegation ⟨⟨1⟩, ⟨2⟩, ⟨4⟩, .consumer, "rs"⟩]).grantById ⟨1⟩ ⟨4⟩).isSome = true := by
  decide

end Memory

end Gatehouse.Store
