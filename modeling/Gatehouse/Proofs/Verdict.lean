import Gatehouse.Admission

/-!
# The verdict on a request

A run asks its questions first and records events afterwards: it is the run of its stages without
any record (`identify`), followed by a verdict on their outcome alone (`run_eq`). What is recorded
is therefore a function of the result (`auditOf`).
-/

namespace Gatehouse.Admission

/-- All stages in order, without what they record. -/
def identify (policy : Policy) (request : Request) (credential : Credential) :
    Stage (Option IdentityContext) := do
  match ← authenticate credential request.bootstrap with
  | none => return none
  | some principal => some <$> authorize policy request principal

/-- The record of what a caller was found to act under. -/
def attachments (c : IdentityContext) : List AuditEvent :=
  (c.delegation.map (AuditEvent.delegationAttached c.identity.user)).toList ++
    (c.providerScope.map (AuditEvent.providerScopeAttached c.identity.user)).toList

/-- The record of a result. -/
def auditOf (credential : Credential) (path : String) :
    Except Failure (Option IdentityContext) → List AuditEvent
  | .ok (some c) => attachments c ++ [.succeeded c (fingerprintOf credential) path]
  | .ok none => []
  | .error f => [.failed f credential.kind? (fingerprintOf credential) path]

/-- The verdict on a request whose stages came to an end. -/
def verdictOf (credential : Credential) (path : String)
    (outcome : Except Refusal (Option IdentityContext)) : Verdict :=
  let result := outcome.mapError (·.failure)
  { result
    audit := auditOf credential path result
    unusable := match outcome with
      | .error refusal => refusal.unusable
      | .ok _ => none }

/-! ## Recording -/

variable {α β : Type} {trail : List AuditEvent}

/-- A stage leaves the trail as it is, for what follows if it yields a value. -/
theorem ofStage_bind_run (s : Stage α) (f : α → Recorded β) :
    (Recorded.ofStage s >>= f).run.run trail = s.run.bind fun
      | .ok a => (f a).run.run trail
      | .error r => .done (.error r, trail) := by
  change (s.run.bind fun r => .done (r, trail)).bind _ = _
  rw [Dialogue.bind_assoc]
  congr 1
  funext r
  cases r with
  | ok a => rfl
  | error r => rfl

theorem recordAttachments_bind_run (c : IdentityContext) (f : Unit → Recorded β) :
    (recordAttachments c >>= f).run.run trail = (f ()).run.run (trail ++ attachments c) := by
  obtain ⟨identity, kind, delegation, scope⟩ := c
  unfold attachments
  cases delegation with
  | none =>
    cases scope with
    | none => exact congrArg (f ()).run.run (List.append_nil trail).symm
    | some s => rfl
  | some d =>
    cases scope with
    | none => rfl
    | some s => exact congrArg (f ()).run.run (List.append_assoc ..)

/-- The stages ask what they ask without a record, and then record what is attached. -/
theorem stages_run (policy : Policy) (request : Request) (credential : Credential) :
    (stages policy request credential).run.run trail =
      (identify policy request credential).run.bind fun outcome =>
        .done (outcome, trail ++ match outcome with
          | .ok (some c) => attachments c
          | _ => []) := by
  unfold stages identify
  rw [ofStage_bind_run, ExceptT.run_bind, Dialogue.bind_eq, Dialogue.bind_assoc]
  congr 1
  funext found
  cases found with
  | error r => exact congrArg (fun l => Dialogue.done (_, l)) (List.append_nil trail).symm
  | ok found =>
    cases found with
    | none => exact congrArg (fun l => Dialogue.done (_, l)) (List.append_nil trail).symm
    | some principal =>
      dsimp only
      rw [ofStage_bind_run, ExceptT.run_map, Dialogue.map_eq, Dialogue.bind_assoc]
      congr 1
      funext outcome
      cases outcome with
      | error r => exact congrArg (fun l => Dialogue.done (_, l)) (List.append_nil trail).symm
      | ok c => exact recordAttachments_bind_run c _

theorem run_eq (policy : Policy) (request : Request) :
    run policy request =
      (identify policy request (.ofHeaders request.headers)).run.bind fun outcome =>
        .done (verdictOf (.ofHeaders request.headers) request.path outcome) := by
  unfold run
  dsimp only
  rw [stages_run, Dialogue.bind_eq, Dialogue.bind_assoc]
  congr 1
  funext outcome
  cases outcome with
  | error r => rfl
  | ok found =>
    cases found with
    | none => rfl
    | some c => rfl

end Gatehouse.Admission
