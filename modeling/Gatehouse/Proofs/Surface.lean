import Gatehouse.Proofs.Admission
import Gatehouse.Proofs.Endings

/-!
# Who gets past a guard

What stands behind a guard is asked when the path of a request is public or the run of this very
request did not fail, and is told of the caller whom the run found, and of nobody on a public path
(`respond_handle`). The identity endpoint therefore hands out an identity only to the caller that
has just been authenticated, whatever paths are public (`identity_authenticated`).
-/

namespace Gatehouse

open Http

theorem Failure.status_ne_ok (f : Failure) : f.status ≠ 200 := by
  cases f <;> simp [status]

/-- The response to a failure shows its status and envelope. -/
theorem Failure.response_eq (f : Failure) :
    f.response.status = f.status ∧ f.response.body = f.envelope.toJson.render := by
  unfold response
  dsimp only
  split
  · exact ⟨rfl, rfl⟩
  · exact ⟨rfl, rfl⟩

namespace Guard

variable {s : Surroundings} {policy : Policy} {within : Nat → Bool} {now : Nat}

/-- The request whose run a guard waits for. -/
def request (g : Guard) (r : WebRequest) : Request := ⟨r.headers, r.path, g.requested, g.bootstrap⟩

theorem isPublic_iff {g : Guard} {path : String} :
    g.isPublic path = true ↔ ∃ p ∈ g.publicPaths, p.toList <+: path.toList := by
  simp [isPublic]

theorem isPublic_eq_false_iff {g : Guard} {path : String} :
    g.isPublic path = false ↔ ∀ p ∈ g.publicPaths, ¬ p.toList <+: path.toList := by
  simp [isPublic]

/-- A guard lets a public path through with nobody's identity, and responds to any other path by the
end of its run. -/
theorem respond_handle (g : Guard) (r : WebRequest) (inner : Option IdentityContext → Response) :
    s.respond policy within now (g.handle r inner) =
      respond inner (if g.isPublic r.path then .result (.ok none)
        else s.endOf policy within now (g.request r)) := by
  unfold handle
  cases g.isPublic r.path with
  | false => rfl
  | true => rfl

/-- The response is always that of what stands behind the guard, told of a caller, when the run
ended with that caller: any other end has a response of its own or tells of another caller. -/
theorem respond_eq_inner_iff {e : RunEnd} {c : Option IdentityContext} :
    (∀ inner, respond inner e = inner c) ↔ e = .result (.ok c) := by
  have hown : ∀ response : Response, ¬ ∀ inner : Option IdentityContext → Response,
      response = inner c := fun response h => by
    have hstatus := congrArg Response.status (h fun _ => .ofStatus (response.status + 1))
    exact Nat.succ_ne_self _ hstatus.symm
  constructor
  · intro h
    cases e with
    | broken => exact absurd h (hown _)
    | cutOff => exact absurd h (hown _)
    | result r =>
      cases r with
      | error f => exact absurd h (hown _)
      | ok c' =>
        have hsame := congrArg Response.status (h fun x => .ofStatus (if x = c then 0 else 1))
        change (if c' = c then 0 else 1) = if c = c then 0 else 1 at hsame
        by_cases heq : c' = c
        · rw [heq]
        · rw [if_neg heq, if_pos rfl] at hsame
          cases hsame
  · rintro rfl inner
    rfl

/-- What stands behind a guard is asked when the path is public or the run did not fail. -/
theorem asks_inner_iff {g : Guard} {r : WebRequest} :
    (∃ c, ∀ inner, s.respond policy within now (g.handle r inner) = inner c) ↔
      g.isPublic r.path = true ∨
        ∃ c, s.endOf policy within now (g.request r) = .result (.ok c) := by
  simp only [respond_handle, respond_eq_inner_iff]
  cases g.isPublic r.path with
  | false => simp
  | true => simp

/-- It is told of a caller when the path is not public and the run found that caller. -/
theorem tells_inner_iff {g : Guard} {r : WebRequest} {c : IdentityContext} :
    (∀ inner, s.respond policy within now (g.handle r inner) = inner (some c)) ↔
      g.isPublic r.path = false ∧
        s.endOf policy within now (g.request r) = .result (.ok (some c)) := by
  simp only [respond_handle, respond_eq_inner_iff]
  cases g.isPublic r.path with
  | false => simp
  | true => simp

end Guard

namespace Surface

variable {s : Surroundings} {policy : Policy} {within : Nat → Bool} {now : Nat}
  {publicPaths : List String} {headers : Headers}

theorem respond_map (f : Response → Response) (h : Handling) :
    s.respond policy within now (h.map f) = f (s.respond policy within now h) := by
  cases h with
  | immediate response => rfl
  | guarded request respond => rfl

/-- The guard in front of the identity endpoint. -/
def identityGuard (publicPaths : List String) : Guard := ⟨.full, false, publicPaths⟩

/-- What the identity endpoint responds to a request that reads it. -/
theorem respond_identity :
    s.respond policy within now (handle publicPaths ⟨"GET", identityPath, headers⟩) =
      (Guard.respond identity (if (identityGuard publicPaths).isPublic identityPath then
        .result (.ok none) else s.endOf policy within now
          ((identityGuard publicPaths).request ⟨"GET", identityPath, headers⟩))).measured := by
  rw [← Guard.respond_handle (identityGuard publicPaths) ⟨"GET", identityPath, headers⟩]
  exact respond_map _ _

/-- Other paths are answered without a look at the request. -/
theorem respond_elsewhere {path : String} (h : path ≠ identityPath) :
    s.respond policy within now (handle publicPaths ⟨"GET", path, headers⟩) =
      if path = healthPath then health.measured else .ofStatus 404 := by
  unfold handle
  simp only [beq_iff_eq, h, ↓reduceIte]
  split
  · rfl
  · rfl

/-- A response with the status of success shows the identity of a caller whom the run found. -/
theorem status_respond_identity {e : RunEnd} :
    (Guard.respond identity e).measured.status = 200 ↔ ∃ c, e = .result (.ok (some c)) := by
  constructor
  · intro h
    cases e with
    | broken => cases h
    | cutOff => cases h
    | result r =>
      cases r with
      | error f => exact absurd (f.response_eq.1.symm.trans h) f.status_ne_ok
      | ok c =>
        cases c with
        | none => cases h
        | some c => exact ⟨c, rfl⟩
  · rintro ⟨c, rfl⟩
    rfl

/-- The identity endpoint answers with success exactly when its path is not public and the run of
the very request found a caller, and then with that caller's identity; a failure is answered with
its status and envelope, and a public path with a complaint, whatever else the request holds. Other
paths show no identity. Behind any guard, the inner endpoint is asked when the path is public or the
run did not fail, and is told of a caller when the run found that caller. -/
theorem identity_authenticated (s : Surroundings) (policy : Policy) (within : Nat → Bool)
    (now : Nat) :
    (∀ publicPaths headers,
      let request : Request := ⟨headers, identityPath, .full, false⟩
      let response := s.respond policy within now
        (handle publicPaths ⟨"GET", identityPath, headers⟩)
      (response.status = 200 ↔ (∀ p ∈ publicPaths, ¬ p.toList <+: identityPath.toList) ∧
        ∃ c, s.endOf policy within now request = .result (.ok (some c))) ∧
      ((∀ p ∈ publicPaths, ¬ p.toList <+: identityPath.toList) →
        (∀ c, s.endOf policy within now request = .result (.ok (some c)) →
          response = (Response.json 200 c.toJson).measured) ∧
        ∀ f, s.endOf policy within now request = .result (.error f) →
          response.status = f.status ∧ response.body = f.envelope.toJson.render) ∧
      ((∃ p ∈ publicPaths, p.toList <+: identityPath.toList) →
        response = (Response.plain 500 missingContext).measured)) ∧
    (∀ publicPaths headers path, path ≠ identityPath →
      s.respond policy within now (handle publicPaths ⟨"GET", path, headers⟩) =
        if path = healthPath then health.measured else .ofStatus 404) ∧
    ∀ (g : Guard) (r : WebRequest),
      let request : Request := ⟨r.headers, r.path, g.requested, g.bootstrap⟩
      ((∃ c, ∀ inner, s.respond policy within now (g.handle r inner) = inner c) ↔
        (∃ p ∈ g.publicPaths, p.toList <+: r.path.toList) ∨
          ∃ c, s.endOf policy within now request = .result (.ok c)) ∧
      ∀ c, (∀ inner, s.respond policy within now (g.handle r inner) = inner (some c)) ↔
        (∀ p ∈ g.publicPaths, ¬ p.toList <+: r.path.toList) ∧
          s.endOf policy within now request = .result (.ok (some c)) := by
  refine ⟨fun publicPaths headers => ?_, fun publicPaths headers path hpath =>
    respond_elsewhere hpath, fun g r => ?_⟩
  · intro request response
    have hresponse : response = (Guard.respond identity
        (if (identityGuard publicPaths).isPublic identityPath then .result (.ok none)
          else s.endOf policy within now request)).measured := respond_identity
    have hguarded : (identityGuard publicPaths).isPublic identityPath = false ↔
        ∀ p ∈ publicPaths, ¬ p.toList <+: identityPath.toList := Guard.isPublic_eq_false_iff
    have hpublic : (identityGuard publicPaths).isPublic identityPath = true ↔
        ∃ p ∈ publicPaths, p.toList <+: identityPath.toList := Guard.isPublic_iff
    rw [hresponse, ← hguarded, ← hpublic, status_respond_identity]
    cases (identityGuard publicPaths).isPublic identityPath with
    | true => simp [Guard.respond, identity]
    | false =>
      refine ⟨by simp, fun _ => ⟨fun c he => ?_, fun f he => ?_⟩, by simp⟩
      · rw [he]
        rfl
      · rw [he]
        exact f.response_eq
  · intro request
    rw [← Guard.isPublic_iff, ← Guard.isPublic_eq_false_iff]
    exact ⟨Guard.asks_inner_iff, fun c => Guard.tells_inner_iff⟩

/-- The bearer of a token is shown an identity, but not where every path is public. -/
theorem identity_authenticated_bearer :
    let headers : Headers := [⟨"authorization", "Bearer token".toUTF8.toList⟩]
    let respond (publicPaths : List String) := Admission.lendingPlatform.surroundings.respond
      Admission.lendingPlatform.policy (fun _ => true) 0
        (handle publicPaths ⟨"GET", identityPath, headers⟩)
    (respond ["/health"]).status = 200 ∧
      respond [""] = (Response.plain 500 missingContext).measured := by
  intro headers respond
  obtain ⟨hendpoint, -, -⟩ := identity_authenticated Admission.lendingPlatform.surroundings
    Admission.lendingPlatform.policy (fun _ => true) 0
  obtain ⟨hguarded, -, -⟩ := hendpoint ["/health"] headers
  obtain ⟨-, -, hpublic⟩ := hendpoint [""] headers
  refine ⟨hguarded.mpr ⟨by decide, ?_⟩, hpublic ⟨"", by simp, List.nil_prefix⟩⟩
  have hcaller : Admission.lendingPlatform.authenticated ⟨headers, identityPath, .full, false⟩ =
      .ok (some ⟨⟨7⟩, some ⟨"Given", "Family"⟩, .bearerToken⟩) := by cbv
  have hresult : Admission.lendingPlatform.result ⟨headers, identityPath, .full, false⟩ =
      .ok (some ⟨_, .bearerToken, none, none⟩) :=
    (Admission.result_eq_ok ⟨rfl, Nat.zero_le _⟩ hcaller).mpr
      ⟨rfl, rfl, .nothing (by cbv) (by cbv)⟩
  exact ⟨_, by rw [Platform.endOf_surroundings, hresult]⟩

end Surface

end Gatehouse
