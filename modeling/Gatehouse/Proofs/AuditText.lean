import Gatehouse.Audit
import Gatehouse.Proofs.Format
import Gatehouse.Proofs.JsonWriting

/-!
# Audit events are written so that nothing can be forged

Whatever texts an event quotes, it is written as one JSON object without line breaks, from which the
fields that are set are read again in order and with the values that they have (`line_exact`).
-/

namespace Gatehouse

open Json

namespace Json

/-- Reads the keys of an object in order, whatever their values are. -/
def keys : Decoder (List String) := fun d =>
  (mapEntries some (fun _ => .ok ()) d).map fun entries => entries.map Prod.fst

theorem keys_draft (members : List (String × Value)) :
    keys (Value.object members).draft = .ok (members.map Prod.fst) := by
  have hentries : entries some (fun _ => .ok ()) (membersDrafts members) =
      .ok (members.map fun m => (m.1, ())) := by
    induction members with
    | nil => rfl
    | cons m rest ih =>
      rw [membersDrafts, entries, ih]
      rfl
  have hobject : mapEntries some (fun _ => .ok ()) (Value.object members).draft =
      .ok (members.map fun m => (m.1, ())) :=
    bind_eq_ok.mpr ⟨_, hentries, rfl⟩
  unfold keys
  rw [hobject]
  simp [Except.map, Function.comp_def]

/-- The key of a member that is written if its value is there. -/
theorem map_fst_member? (name : String) (v : Option Value) :
    (Value.member? name v).map Prod.fst = ([(name, v.isSome)].filter Prod.snd).map Prod.fst := by
  cases v <;> rfl

end Json

def AuditKind.all : List AuditKind :=
  [.succeeded, .failed, .delegationAttached, .providerScopeAttached]

def AuditKind.ofName? (s : String) : Option AuditKind := all.find? fun k => k.name == s

def AuditKind.decoder : Decoder AuditKind := textWith AuditKind.ofName?

namespace AuditEvent

/-! ## Reading an event -/

def fields : List Field :=
  [.required "event" AuditKind.decoder, .optional "path" text, .optional "user_id" Uuid.decoder,
    .optional "credential" CredentialKind.decoder, .optional "token_fingerprint" text,
    .optional "roles" (list Role.decoder), .optional "delegation_id" Uuid.decoder,
    .optional "on_behalf_of" Uuid.decoder, .optional "code" text, .optional "reason" text]

def decoder : Decoder AuditEvent := fun d => do
  let p ← record fields true d
  return {
    kind := ← p.required "event" AuditKind.decoder
    path := ← p.optional "path" text
    user := ← p.optional "user_id" Uuid.decoder
    credential := ← p.optional "credential" CredentialKind.decoder
    fingerprint := ← p.optional "token_fingerprint" text
    roles := ← p.optional "roles" (list Role.decoder)
    delegation := ← p.optional "delegation_id" Uuid.decoder
    onBehalfOf := ← p.optional "on_behalf_of" Uuid.decoder
    code := ← p.optional "code" text
    reason := ← p.optional "reason" text }

def shape : Shape := .record (fields.map (·.name)) fun _ => .plain

theorem stands_kind (k : AuditKind) : Stands .plain (.text k.name) AuditKind.decoder k := by
  cases k <;> exact stands_plain rfl

theorem stands_roles (l : List Role) :
    Stands .plain (.array (l.map Role.toJson)) (list Role.decoder) l :=
  stands_plain (list_of_items fun r _ => r.stands.decoded _ rfl)

/-- The members of a written event, with those that are left out. -/
theorem toJson_eq (e : AuditEvent) : e.toJson = .object (("event", .text e.kind.name) ::
    (Value.member? "path" (e.path.map .text) ++
    (Value.member? "user_id" (e.user.map (·.toJson)) ++
    (Value.member? "credential" (e.credential.map (·.toJson)) ++
    (Value.member? "token_fingerprint" (e.fingerprint.map .text) ++
    (Value.member? "roles" (e.roles.map fun l => .array (l.map Role.toJson)) ++
    (Value.member? "delegation_id" (e.delegation.map (·.toJson)) ++
    (Value.member? "on_behalf_of" (e.onBehalfOf.map (·.toJson)) ++
    (Value.member? "code" (e.code.map .text) ++
    (Value.member? "reason" (e.reason.map .text) ++ [])))))))))) := by
  simp only [toJson, List.append_assoc, List.append_nil]
  rfl

/-- An event is read from what is written for it. -/
theorem stands (e : AuditEvent) : Stands shape e.toJson decoder e := by
  have hkind := stands_kind e.kind
  have htext : ∀ (s : String) (d : Draft), Matches .plain (.text s) d → d ≠ .null :=
    fun _ _ => ne_null_of_matches_plain Draft.noConfusion
  have huuid : ∀ (u : Uuid) (d : Draft), Matches .plain u.toJson d → d ≠ .null :=
    fun _ _ => ne_null_of_matches_plain Draft.noConfusion
  have hcredential : ∀ (k : CredentialKind) (d : Draft), Matches .plain k.toJson d → d ≠ .null :=
    fun _ _ => ne_null_of_matches_plain Draft.noConfusion
  have hroles : ∀ (l : List Role) (d : Draft),
      Matches .plain (.array (l.map Role.toJson)) d → d ≠ .null :=
    fun _ _ => ne_null_of_matches_plain Draft.noConfusion
  rw [toJson_eq]
  refine stands_record (.required hkind
    (.optional (fun s _ => stands_text s) (fun s _ => htext s)
    (.optional (fun u _ => u.stands) (fun u _ => huuid u)
    (.optional (fun k _ => k.stands) (fun k _ => hcredential k)
    (.optional (fun s _ => stands_text s) (fun s _ => htext s)
    (.optional (fun l _ => stands_roles l) (fun l _ => hroles l)
    (.optional (fun u _ => u.stands) (fun u _ => huuid u)
    (.optional (fun u _ => u.stands) (fun u _ => huuid u)
    (.optional (fun s _ => stands_text s) (fun s _ => htext s)
    (.optional (fun s _ => stands_text s) (fun s _ => htext s) .nil)))))))))) (by decide) ?_
  intro d p hp hholds
  have hkind := hholds.required "event" (by simp) hkind
  have hpath : p.optional "path" text = .ok e.path :=
    hholds.optional "path" (by decide) (by simp [Value.member?]) stands_text htext
  have huser : p.optional "user_id" Uuid.decoder = .ok e.user :=
    hholds.optional "user_id" (by decide) (by simp [Value.member?]) Uuid.stands huuid
  have hcredential : p.optional "credential" CredentialKind.decoder = .ok e.credential :=
    hholds.optional "credential" (by decide) (by simp [Value.member?]) CredentialKind.stands
      hcredential
  have hfingerprint : p.optional "token_fingerprint" text = .ok e.fingerprint :=
    hholds.optional "token_fingerprint" (by decide) (by simp [Value.member?]) stands_text htext
  have hroles : p.optional "roles" (list Role.decoder) = .ok e.roles :=
    hholds.optional "roles" (by decide) (by simp [Value.member?]) stands_roles hroles
  have hdelegation : p.optional "delegation_id" Uuid.decoder = .ok e.delegation :=
    hholds.optional "delegation_id" (by decide) (by simp [Value.member?]) Uuid.stands huuid
  have honBehalfOf : p.optional "on_behalf_of" Uuid.decoder = .ok e.onBehalfOf :=
    hholds.optional "on_behalf_of" (by decide) (by simp [Value.member?]) Uuid.stands huuid
  have hcode : p.optional "code" text = .ok e.code :=
    hholds.optional "code" (by decide) (by simp [Value.member?]) stands_text htext
  have hreason : p.optional "reason" text = .ok e.reason :=
    hholds.optional "reason" (by decide) (by simp [Value.member?]) stands_text htext
  simp only [decoder, hp, hkind, hpath, huser, hcredential, hfingerprint, hroles, hdelegation,
    honBehalfOf, hcode, hreason, bind, Except.bind]
  rfl

/-! ## The written line -/

/-- The names of the fields that are set, in the order in which fields are written. -/
def setFields (e : AuditEvent) : List String :=
  ([("event", true), ("path", e.path.isSome), ("user_id", e.user.isSome),
    ("credential", e.credential.isSome), ("token_fingerprint", e.fingerprint.isSome),
    ("roles", e.roles.isSome), ("delegation_id", e.delegation.isSome),
    ("on_behalf_of", e.onBehalfOf.isSome), ("code", e.code.isSome),
    ("reason", e.reason.isSome)].filter Prod.snd).map Prod.fst

theorem keys_toJson (e : AuditEvent) : keys e.toJson.draft = .ok e.setFields := by
  have hset : e.setFields = "event" ::
      (([("path", e.path.isSome)].filter Prod.snd).map Prod.fst ++
      (([("user_id", e.user.isSome)].filter Prod.snd).map Prod.fst ++
      (([("credential", e.credential.isSome)].filter Prod.snd).map Prod.fst ++
      (([("token_fingerprint", e.fingerprint.isSome)].filter Prod.snd).map Prod.fst ++
      (([("roles", e.roles.isSome)].filter Prod.snd).map Prod.fst ++
      (([("delegation_id", e.delegation.isSome)].filter Prod.snd).map Prod.fst ++
      (([("on_behalf_of", e.onBehalfOf.isSome)].filter Prod.snd).map Prod.fst ++
      (([("code", e.code.isSome)].filter Prod.snd).map Prod.fst ++
      (([("reason", e.reason.isSome)].filter Prod.snd).map Prod.fst ++ []))))))))) := by
    rw [List.append_nil]
    simp only [← List.map_append, ← List.filter_append]
    rfl
  rw [toJson_eq, keys_draft, hset]
  simp only [List.map_cons, List.map_append, map_fst_member?, Option.isSome_map, List.map_nil]

/-- An event is written without a line break or any other control below the space, as one JSON
object; its keys are those of the fields that are set, in order, and what is read from it is the
event. So two events are never written alike, whatever texts they quote. -/
theorem line_exact (e : AuditEvent) :
    (∀ c ∈ e.line.toList, 0x20 ≤ c.toNat) ∧
    IsJson e.line.toList ∧
    decode keys e.line = .ok e.setFields ∧
    decode decoder e.line = .ok e ∧
    ∀ e' : AuditEvent, e' ≠ e → e'.line ≠ e.line := by
  have hread : ∀ e : AuditEvent, decode decoder e.line = .ok e :=
    fun e => e.stands.readsBack.written
  have hchars : e.line.toList = e.toJson.chars := String.toList_ofList
  refine ⟨?_, ?_, decode_of_reads (reads_chars e.toJson) e.keys_toJson, hread e, ?_⟩
  · rw [hchars]
    exact noControls_chars e.toJson
  · rw [hchars]
    exact isJson_chars e.toJson
  · intro e' hne hline
    have hsame := hread e'
    rw [hline, hread e] at hsame
    exact hne (Except.ok.inj hsame).symm

/-- Were quotes written as they are, a path could end itself and go on with a code. -/
theorem line_exact_forged :
    let forged : AuditEvent := { kind := .failed, path := some "/\n\",\"code\":\"C" }
    let event : AuditEvent := { kind := .failed, path := some "/\n", code := some "C" }
    forged.line = "\x7b\"event\":\"auth.failed\",\"path\":\"/\\n\\\",\\\"code\\\":\\\"C\"\x7d" ∧
    decode keys forged.line = .ok ["event", "path"] ∧
    decode keys event.line = .ok ["event", "path", "code"] ∧
    event ≠ forged ∧ event.line ≠ forged.line := by
  intro forged event
  obtain ⟨-, -, hkeys, -, hdistinct⟩ := line_exact forged
  have hne : event ≠ forged := by decide
  exact ⟨by decide +kernel, hkeys, (line_exact event).2.2.1, hne, hdistinct event hne⟩

end AuditEvent

end Gatehouse
