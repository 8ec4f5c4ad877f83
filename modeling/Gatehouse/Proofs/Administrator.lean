import Gatehouse.Proofs.Admission

/-!
# The platform administrator

The role of the administrator is on an identity because of the settings alone, whatever storage
answers (`hasRole_cosAdmin_of_resolveRoles`). The role of a delegation is another matter: it is the
one in the row of the grant, and no setting is compared with it (`administrator_exact`). A row that
names the administrator's role hands it on in anybody's name (`delegated_administrator`).
-/

namespace Gatehouse

open Store

namespace Authorization

variable {answer : (c : Call) → c.Answer} {policy : Policy} {caller : Principal}
  {requested : RoleSet} {p : Platform}

/-- Whatever storage answers, the settings alone make a caller the administrator. -/
theorem hasRole_cosAdmin_of_resolveRoles {i : Identity}
    (h : Stage.outcome answer (resolveRoles policy caller requested) = .ok i) :
    i.hasRole .cosAdmin = true ↔
      requested.contains .cosAdmin = true ∧ policy.cosAdmin = some caller.user := by
  unfold resolveRoles at h
  dsimp only at h
  split at h
  · rw [Stage.outcome_bind] at h
    obtain ⟨granted, -, hi⟩ := bind_eq_ok.mp h
    cases hi
    exact hasRole_resolved.trans (by rw [if_pos rfl])
  · cases h
    rw [hasRole_initialIdentity]
    simp

/-- A delegation that is attached is the grant that storage answers with. -/
theorem grant_of_attachDelegation {identity : Identity} {value : List UInt8} {d : DelegationContext}
    (h : Stage.outcome answer (attachDelegation identity value) = .ok d) :
    ∃ g, (answer (.store (.grant d.id identity.user)) : StoreCall.Answer _) = .ok (some g) ∧
      d = ⟨d.id, g.delegator, g.role, g.url⟩ := by
  unfold attachDelegation at h
  cases hrole : identity.hasRole .delegate with
  | false =>
    rw [hrole] at h
    cases h
  | true =>
    simp only [hrole, Bool.not_true, Bool.false_eq_true, ↓reduceIte, Stage.outcome_bind,
      bind_eq_ok] at h
    obtain ⟨id, -, found, hfound, hd⟩ := h
    rw [Stage.outcome_ofStore, mapError_eq_ok] at hfound
    cases found with
    | none => cases hd
    | some g =>
      cases hd
      exact ⟨g, hfound, rfl⟩

/-- A caller whose roles are resolved and who asks for the role of a delegate has been looked up. -/
theorem storeAnswers_of_resolveRoles {i : Identity} (hreq : requested.contains .delegate = true)
    (h : Stage.outcome p.answer (resolveRoles policy caller requested) = .ok i) :
    p.StoreAnswers := by
  have hneeds : needsStorage requested = true :=
    needsStorage_iff.mpr ⟨.delegate, by decide, hreq⟩
  unfold resolveRoles at h
  dsimp only at h
  rw [if_pos hneeds, Stage.outcome_bind] at h
  obtain ⟨granted, hgranted, -⟩ := bind_eq_ok.mp h
  exact (Platform.outcome_ofStore_eq_ok.mp hgranted).1

end Authorization

namespace Admission

open Authorization

variable {policy : Policy} {answer : (c : Call) → c.Answer} {p : Platform} {request : Request}
  {ctx : IdentityContext}

theorem hasRole_cosAdmin_of_ok
    (h : ((run policy request).answered answer).result = .ok (some ctx)) :
    ctx.identity.hasRole .cosAdmin = true ↔
      request.requested.contains .cosAdmin = true ∧ policy.cosAdmin = some ctx.identity.user := by
  obtain ⟨caller, -, hauth⟩ := caller_of_ok h
  obtain ⟨hroles, -, -⟩ := stages_of_authorize hauth
  rw [hasRole_cosAdmin_of_resolveRoles hroles, (user_of_resolveRoles hroles).1]

theorem grant_of_ok (h : ((run policy request).answered answer).result = .ok (some ctx))
    {d : DelegationContext} (hd : ctx.delegation = some d) :
    ∃ g, (answer (.store (.grant d.id ctx.identity.user)) : StoreCall.Answer _) = .ok (some g) ∧
      d = ⟨d.id, g.delegator, g.role, g.url⟩ := by
  obtain ⟨caller, -, hauth⟩ := caller_of_ok h
  obtain ⟨-, hattach, -⟩ := stages_of_authorize hauth
  rw [hd] at hattach
  generalize ctx.providerScope = scope at hattach
  rcases attached_of_attach hattach with hnone | ⟨value, d', -, hstage, hsome⟩ | ⟨_, _, -, -, hsome⟩
  · cases hnone
  · cases hsome
    exact grant_of_attachDelegation hstage
  · cases hsome

/-- The caller of a request that is let in acts under a delegation when its request does. -/
theorem delegation_iff_actsUnder (h : p.result request = .ok (some ctx)) (d : DelegationContext) :
    ctx.delegation = some d ↔ p.ActsUnder request ctx.identity.user d := by
  obtain ⟨caller, ha, hauth⟩ := caller_of_result h
  obtain ⟨hroles, -, -⟩ := stages_of_authorize hauth
  rw [(user_of_resolveRoles hroles).1]
  -- Both a delegation and a request for the role of a delegate have storage asked.
  have hstore : ctx.delegation = some d ∨ p.ActsUnder request caller.user d → p.StoreAnswers := by
    rintro (hd | ⟨-, -, hreq, -⟩)
    · obtain ⟨g, hg, -⟩ := grant_of_ok h hd
      exact (Platform.storeAnswer_eq_ok.mp hg).1
    · exact storeAnswers_of_resolveRoles hreq hroles
  constructor
  · intro hd
    obtain ⟨-, -, hatt⟩ := (result_eq_ok (hstore (Or.inl hd)) ha).mp h
    rw [hd] at hatt
    generalize ctx.providerScope = scope at hatt
    cases hatt with
    | delegation h => exact h
  · intro hunder
    have hres : p.result request = .ok (some
        ⟨identityOn p caller request.requested, caller.credential, some d, none⟩) :=
      (result_eq_ok (hstore (Or.inr hunder)) ha).mpr ⟨rfl, rfl, .delegation hunder⟩
    rw [h] at hres
    cases hres
    rfl

/-- Nothing that storage answers puts the administrator's role on an identity: who has it is the
configured administrator and asked for it. A delegation is the grant that storage answers with under
its id; with a store in memory, it carries that role when an active row does that names the caller,
whoever its delegator is. -/
theorem administrator_exact (p : Platform) (request : Request) :
    (∀ (answer : (c : Call) → c.Answer) (ctx : IdentityContext),
      ((run p.policy request).answered answer).result = .ok (some ctx) →
      (ctx.identity.hasRole .cosAdmin = true ↔ request.requested.contains .cosAdmin = true ∧
        p.policy.cosAdmin = some ctx.identity.user) ∧
      ∀ d, ctx.delegation = some d →
        ∃ g, (answer (.store (.grant d.id ctx.identity.user)) : StoreCall.Answer _) = .ok (some g) ∧
          d = ⟨d.id, g.delegator, g.role, g.url⟩) ∧
    ∀ ctx, p.result request = .ok (some ctx) → ∀ delegator,
      (∃ d, ctx.delegation = some d ∧ d.role = .cosAdmin ∧ d.delegator = delegator) ↔
        ∃ d, p.ActsUnder request ctx.identity.user d ∧ d.role = .cosAdmin ∧
          d.delegator = delegator := by
  constructor
  · intro answer ctx h
    exact ⟨hasRole_cosAdmin_of_ok h, fun d hd => grant_of_ok h hd⟩
  · intro ctx h delegator
    simp only [delegation_iff_actsUnder h]

/-- The caller is not the administrator, and names an active row with the administrator's role. -/
theorem administrator_exact_lent :
    ∃ ctx, (lendingWith .cosAdmin "https://as.example").result delegateRequest = .ok (some ctx) ∧
      ¬ ctx.identity.hasRole .cosAdmin = true ∧
      ∃ d, (lendingWith .cosAdmin "https://as.example").ActsUnder delegateRequest
          ctx.identity.user d ∧ d.role = .cosAdmin ∧ d.delegator = ⟨5⟩ := by
  obtain ⟨identity, h⟩ := result_lendingWith .cosAdmin "https://as.example"
  obtain ⟨hanswered, hrows⟩ :=
    administrator_exact (lendingWith .cosAdmin "https://as.example") delegateRequest
  refine ⟨_, h, fun hrole => ?_, (hrows _ h _).mp ⟨_, rfl, rfl, rfl⟩⟩
  obtain ⟨hadmin, -⟩ := hanswered _ _ h
  cases (hadmin.mp hrole).2

/-- There is nobody who could be the administrator, and all the same a caller acts with that role
for the user 5. -/
theorem delegated_administrator :
    (lendingWith .cosAdmin "https://as.example").policy.cosAdmin = none ∧
    ∃ ctx d, (lendingWith .cosAdmin "https://as.example").result delegateRequest =
        .ok (some ctx) ∧
      ctx.delegation = some d ∧ d.role = .cosAdmin ∧
        (lendingWith .cosAdmin "https://as.example").policy.cosAdmin ≠ some d.delegator := by
  obtain ⟨identity, h⟩ := result_lendingWith .cosAdmin "https://as.example"
  exact ⟨rfl, _, _, h, rfl, rfl, by decide⟩

end Admission

end Gatehouse
