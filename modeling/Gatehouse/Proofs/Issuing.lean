import Gatehouse.Program
import Gatehouse.Proofs.Authentication
import Gatehouse.Proofs.HeaderText
import Gatehouse.Proofs.Verifier
import Gatehouse.Proofs.Settings
import Gatehouse.Proofs.Variables

/-!
# Issuing secrets

A secret is hashed at the cost of the settings in a file, if one is named, and else at the usual one
(`hash_cost_exact`). Variables, which a server that starts without a file does look at, count for
nothing then. Once the hash is stored for a client, whoever presents the secret is its owner,
provided that every character of the secret can be read back from a header
(`issued_secret_authenticates`).
-/

namespace Gatehouse

open Settings

theorem Dialogue.answered_through {Q P α : Type} {A : Q → Type} {B : P → Type}
    (d : Dialogue Q A α) (each : (q : Q) → Dialogue P B (A q)) (answer : (p : P) → B p) :
    (d.through each).answered answer = d.answered fun q => (each q).answered answer := by
  induction d with
  | done a => rfl
  | ask q next ih =>
    rw [through, answered_bind, ih]
    rfl

namespace Program

variable {supply : (n : Need) → n.Answer} {v v' : Variables} {path given : Option String}
  {s : Settings} {c : Secret.Settings} {secret text : String} {verifier : Secret.Verifier}

def disk (supply : (n : Need) → n.Answer) (path : String) : Option FileEntry := supply (.file path)

theorem answered_onDisk {α : Type} (d : Disk α) (supply : (n : Need) → n.Answer) :
    (onDisk d).answered supply = d.answered (disk supply) :=
  d.answered_through _ supply

/-! ## The cost of settings -/

theorem bounded_of_load (h : (load v path).answered (disk supply) = (.ok s, v')) : s.Bounded := by
  obtain ⟨⟨file, -, hmerge⟩, -, -⟩ := of_load h
  unfold merge at hmerge
  cases hsettings : Tree.settings? (file.overlay v.settings) with
  | none =>
    rw [hsettings] at hmerge
    cases hmerge
  | some s' =>
    rw [hsettings] at hmerge
    cases hmerge
    exact (of_decoder (toOption_eq_some.mp hsettings)).1

theorem answered_costOf (v : Variables) (supply : (n : Need) → n.Answer) (p : String) :
    (costOf v (some p)).answered supply =
      (((load v (some p)).answered (disk supply)).1.map (·.secrets)).mapError .settings := by
  refine (Dialogue.answered_bind supply (onDisk (load v (some p))) _).trans ?_
  rw [answered_onDisk]
  rfl

theorem costOf_of_load (hload : (load v path).answered (disk supply) = (.ok s, v')) :
    (costOf v path).answered supply = .ok (if path.isSome then s.secrets else defaultSecrets) := by
  cases path with
  | none => rfl
  | some p =>
    rw [answered_costOf, hload]
    rfl

theorem isWritable_default : defaultSecrets.IsWritable := ⟨by decide, by decide, by decide⟩

theorem isWritable_of_costOf (h : (costOf v path).answered supply = .ok c) : c.IsWritable := by
  cases path with
  | none =>
    cases h
    exact isWritable_default
  | some p =>
    rw [answered_costOf, mapError_eq_ok, map_eq_ok] at h
    obtain ⟨s, hs, rfl⟩ := h
    have hbounded : s.Bounded := bounded_of_load (Prod.ext hs rfl)
    exact ⟨hbounded.memoryKib, hbounded.iterations, hbounded.parallelism⟩

/-! ## Hashing -/

theorem answered_hash (v : Variables) (path given : Option String)
    (supply : (n : Need) → n.Answer) :
    (hash v path given).answered supply = match (secretOf given).answered supply with
      | .error fault => .noHash fault
      | .ok secret =>
        if secret.isEmpty then .noHash .noSecret
        else match (costOf v path).answered supply with
          | .error fault => .noHash fault
          | .ok c => match Secret.Verifier.ofSettings c with
            | .error fault => .noHash (.cost fault)
            | .ok verifier => .hash (verifier.issue (supply .salt) secret) := by
  unfold hash
  rw [Dialogue.bind_eq, Dialogue.answered_bind]
  cases (secretOf given).answered supply with
  | error fault => rfl
  | ok secret =>
    by_cases hempty : secret.isEmpty
    · simp [hempty, Dialogue.answered]
    · simp only [hempty, Bool.false_eq_true, if_false, Dialogue.bind_eq, Dialogue.answered_bind]
      cases (costOf v path).answered supply with
      | error fault => rfl
      | ok c =>
        dsimp only
        cases Secret.Verifier.ofSettings c with
        | error fault => rfl
        | ok verifier => rfl

theorem hash_eq_hash :
    (hash v path given).answered supply = .hash text ↔
      ∃ secret c verifier, (secretOf given).answered supply = .ok secret ∧ secret ≠ "" ∧
        (costOf v path).answered supply = .ok c ∧ Secret.Verifier.ofSettings c = .ok verifier ∧
        verifier.issue (supply .salt) secret = text := by
  rw [answered_hash]
  cases (secretOf given).answered supply with
  | error fault => simp
  | ok secret =>
    by_cases hempty : secret = ""
    · simp [hempty]
    · simp only [String.isEmpty_iff, hempty, if_false]
      cases (costOf v path).answered supply with
      | error fault => simp
      | ok c =>
        cases hverifier : Secret.Verifier.ofSettings c with
        | error fault => simp [hverifier]
        | ok verifier => simp [hempty, hverifier]

/-- What hashes are made with when no file is named. -/
def usualVerifier : Secret.Verifier := ⟨⟨19456, 2, 1⟩, 8⟩

theorem ofSettings_usual : Secret.Verifier.ofSettings defaultSecrets = .ok usualVerifier := rfl

theorem issues_usual : usualVerifier.Issues :=
  Secret.Verifier.issues_of_ofSettings ofSettings_usual isWritable_default

theorem hash_without_file (v : Variables) (supply : (n : Need) → n.Answer) (hne : secret ≠ "") :
    (hash v none (some secret)).answered supply =
      .hash (usualVerifier.issue (supply .salt) secret) :=
  hash_eq_hash.mpr ⟨secret, _, _, rfl, hne, rfl, ofSettings_usual, rfl⟩

/-! ## Serving -/

/-- A server that is ready works with the settings that are loaded, up to where it listens. -/
theorem settings_of_serve {line : CommandLine} {s' : Settings} {service : Service}
    (h : (serve v line).answered supply = .ready s' service) :
    ∃ s v', (load v line.config).answered (disk supply) = (.ok s, v') ∧ s' = override s line := by
  unfold serve at h
  rw [Dialogue.bind_eq, Dialogue.answered_bind, answered_onDisk] at h
  cases hload : (load v line.config).answered (disk supply) with
  | mk settings v' =>
    rw [hload] at h
    cases settings with
    | error complaint => cases h
    | ok s =>
      refine ⟨s, v', rfl, ?_⟩
      dsimp only at h
      rw [Dialogue.bind_eq, Dialogue.answered_bind] at h
      cases hstart : (onWeb (Startup.start (override s line) v'.get?)).answered supply with
      | error fault =>
        rw [hstart] at h
        cases h
      | ok service' =>
        rw [hstart] at h
        cases h
        rfl

/-- A hash that is printed asks for exactly the cost of the loaded settings when a file is named,
and for the usual cost when none is, whatever variables say; and a server that starts from the same
place works with the loaded settings in any case. -/
theorem hash_cost_exact (hsecret : (secretOf given).answered supply = .ok secret)
    (hne : secret ≠ "") (hload : (load v path).answered (disk supply) = (.ok s, v'))
    (hverifier : Secret.Verifier.ofSettings s.secrets = .ok verifier)
    (hsalt : (supply .salt).length = Secret.saltSize) :
    (∃ text r, (hash v path given).answered supply = .hash text ∧ Secret.recipe text = .ok r ∧
      r.cost = (if path.isSome then verifier.cost else ⟨19456, 2, 1⟩) ∧
      (r.cost = verifier.cost ↔ path.isSome ∨ verifier.cost = ⟨19456, 2, 1⟩)) ∧
    ∀ line s' service, line.config = path → (serve v line).answered supply = .ready s' service →
      s'.secrets = s.secrets := by
  have hcost := costOf_of_load hload
  -- With no file the usual cost is taken, which is accepted whatever was loaded.
  have hissuing : ∃ issuing,
      Secret.Verifier.ofSettings (if path.isSome then s.secrets else defaultSecrets) = .ok issuing ∧
        issuing.cost = if path.isSome then verifier.cost else ⟨19456, 2, 1⟩ := by
    by_cases hpath : path.isSome
    · rw [if_pos hpath, if_pos hpath]
      exact ⟨verifier, hverifier, rfl⟩
    · rw [if_neg hpath, if_neg hpath]
      exact ⟨usualVerifier, ofSettings_usual, rfl⟩
  obtain ⟨issuing, hof, hissues⟩ := hissuing
  constructor
  · have hprinted := hash_eq_hash.mpr ⟨secret, _, issuing, hsecret, hne, hcost, hof, rfl⟩
    have hrecipe := Secret.Verifier.recipe_issue
      (Secret.Verifier.issues_of_ofSettings hof (isWritable_of_costOf hcost))
      (Secret.bounds_of_saltSize hsalt) secret
    refine ⟨_, _, hprinted, hrecipe, hissues, ?_⟩
    rw [hissues]
    by_cases hpath : path.isSome
    · simp [hpath]
    · simp [hpath, eq_comm]
  · rintro line s' service rfl hready
    obtain ⟨s₀, v₀, hload₀, rfl⟩ := settings_of_serve hready
    rw [hload] at hload₀
    obtain ⟨hs, -⟩ := Prod.mk.inj hload₀
    cases hs
    rfl

/-- The secret comes from the standard input, and the cost from a file and a variable laid over
it. -/
theorem hash_cost_exact_layered :
    let file : FileEntry := .file (some "secrets:\n  memory_kib: 64\n  iterations: 9\n")
    let supply : (n : Need) → n.Answer
      | .file path => if path = "a.yaml" then some file else none
      | .fetch _ => .unreachable
      | .input => [115, 13, 10]
      | .salt => List.replicate 16 7
    let v : Variables := [("AAA_SECRETS__ITERATIONS", "3")]
    let s : Settings := { secrets := ⟨64, 3, 1, 8⟩ }
    (secretOf none).answered supply = .ok "s" ∧
      (load v (some "a.yaml")).answered (disk supply) = (.ok s, v) ∧
      Secret.Verifier.ofSettings s.secrets = .ok ⟨⟨64, 3, 1⟩, 8⟩ ∧
      ∃ text r, (hash v (some "a.yaml") none).answered supply = .hash text ∧
        Secret.recipe text = .ok r ∧ r.cost = ⟨64, 3, 1⟩ := by
  intro file supply v s
  have htext : Encoding.textOfBytes? [115, 13, 10] = some "s\r\n" := by decide
  have hsecret : (secretOf none).answered supply = .ok "s" := by
    unfold secretOf
    simp only [Dialogue.answered, supply, htext]
    rfl
  have hload : (load v (some "a.yaml")).answered (disk supply) = (.ok s, v) := by decide +kernel
  have hverifier : Secret.Verifier.ofSettings s.secrets = .ok ⟨⟨64, 3, 1⟩, 8⟩ := rfl
  obtain ⟨⟨text, r, hprinted, hrecipe, hcost, -⟩, -⟩ :=
    hash_cost_exact hsecret (by decide) hload hverifier (by decide)
  exact ⟨hsecret, hload, hverifier, text, r, hprinted, hrecipe, hcost⟩

/-- What a program is given where there are no files. -/
def withoutFiles : (n : Need) → n.Answer
  | .file _ => none
  | .fetch _ => .unreachable
  | .input => []
  | .salt => List.replicate 16 7

/-- A variable asks for another cost, and no file is named: a server would work with it, but the
hash is made without it. -/
theorem hash_unlike_server :
    let supply := withoutFiles
    let v : Variables := [("AAA_SECRETS__MEMORY_KIB", "8")]
    let s : Settings := { secrets := ⟨8, 2, 1, 8⟩ }
    (load v none).answered (disk supply) = (.ok s, v) ∧
      Secret.Verifier.ofSettings s.secrets = .ok ⟨⟨8, 2, 1⟩, 8⟩ ∧
      ∃ text r, (hash v none (some "x")).answered supply = .hash text ∧
        Secret.recipe text = .ok r ∧ r.cost = ⟨19456, 2, 1⟩ := by
  intro supply v s
  have hload : (load v none).answered (disk supply) = (.ok s, v) := by decide +kernel
  exact ⟨hload, rfl, _, _, hash_without_file v supply (by decide),
    Secret.Verifier.recipe_issue issues_usual (by decide) "x", rfl⟩

/-! ## Presenting -/

/-- A secret that goes with a client id is taken from its header when it can be read back. -/
theorem ofHeaders_of_client {hs : Http.Headers} {id : String}
    (hauthorization : hs.first? Credential.authorizationHeader = none)
    (hid : hs.text? Credential.clientIdHeader = some id)
    (hpresented : hs.first? Credential.clientSecretHeader = some secret.toUTF8.toList) :
    Credential.ofHeaders hs =
      if secret.toList.all Http.isTextChar then .client (Text.trim id) secret else .absent := by
  have hbearer : (hs.text? Credential.authorizationHeader).bind Credential.bearerToken? = none := by
    unfold Http.Headers.text?
    rw [hauthorization]
    rfl
  have hsecret : hs.text? Credential.clientSecretHeader =
      if secret.toList.all Http.isTextChar then some secret else none := by
    unfold Http.Headers.text?
    rw [hpresented, Option.bind_some, Http.textOf?_toUTF8]
  unfold Credential.ofHeaders Credential.clientPair
  rw [hbearer, hid, hsecret]
  by_cases htext : secret.toList.all Http.isTextChar = true
  · simp [htext]
  · simp [htext]

variable {answer : (c : Call) → c.Answer} {client owner : Uuid}

theorem outcome_byClient_of_verify {id hash : String}
    (hstored : answer (.store (.client client)) = Except.ok (some ⟨client, owner, hash, .argon2id⟩))
    (hid : Uuid.parse? id = some client) (hverify : Secret.verify secret hash = (true, none)) :
    Stage.outcome answer (Authentication.byClient id secret) =
      .ok ⟨owner, none, .clientCredentials⟩ := by
  have howner : Authentication.ownerOf (some ⟨client, owner, hash, .argon2id⟩) secret = .ok owner :=
    Authentication.ownerOf_eq_ok.mpr ⟨_, rfl, by rw [hverify], rfl⟩
  have hrecord : Stage.outcome answer (Authentication.clientRecord id) =
      .ok (some ⟨client, owner, hash, .argon2id⟩) := by
    unfold Authentication.clientRecord
    rw [hid]
    exact mapError_eq_ok.mpr hstored
  rw [Authentication.outcome_byClient, hrecord]
  exact map_eq_ok.mpr ⟨owner, howner, rfl⟩

/-- A printed hash is stored for a client, and a request without any other credential presents the
client id and the bytes of the secret. If each character of the secret can be read back from a
header, the caller is the owner; otherwise the request counts as one without a credential. -/
theorem issued_secret_authenticates {hs : Http.Headers} {bootstrap : Bool}
    (hprinted : (hash v path given).answered supply = .hash text)
    (hsecret : (secretOf given).answered supply = .ok secret)
    (hsalt : (supply .salt).length = Secret.saltSize)
    (hstored : answer (.store (.client client)) = Except.ok (some ⟨client, owner, text, .argon2id⟩))
    (hauthorization : hs.first? Credential.authorizationHeader = none)
    (hid : ((hs.text? Credential.clientIdHeader).map Text.trim).bind Uuid.parse? = some client)
    (hpresented : hs.first? Credential.clientSecretHeader = some secret.toUTF8.toList) :
    Stage.outcome answer (Admission.authenticate (.ofHeaders hs) bootstrap) =
      if secret.toList.all Http.isTextChar then .ok (some ⟨owner, none, .clientCredentials⟩)
      else if bootstrap then .ok none
      else .error ⟨.missingCredential, none⟩ := by
  obtain ⟨secret', c, verifier, hsecret', -, hcost, hof, rfl⟩ := hash_eq_hash.mp hprinted
  rw [hsecret] at hsecret'
  cases hsecret'
  obtain ⟨trimmed, htrimmed, hparse⟩ := Option.bind_eq_some_iff.mp hid
  obtain ⟨id, hid, rfl⟩ := Option.map_eq_some_iff.mp htrimmed
  have hverify := Secret.Verifier.verify_issue
    (Secret.Verifier.issues_of_ofSettings hof (isWritable_of_costOf hcost))
    (Secret.bounds_of_saltSize hsalt) secret
  rw [ofHeaders_of_client hauthorization hid hpresented]
  by_cases htext : secret.toList.all Http.isTextChar = true
  · rw [if_pos htext, if_pos htext]
    unfold Admission.authenticate
    rw [Stage.outcome_map, outcome_byClient_of_verify hstored hparse hverify]
    rfl
  · rw [if_neg htext, if_neg htext]
    unfold Admission.authenticate
    cases bootstrap with
    | true => rfl
    | false => rfl

/-- How calls are answered where one client has a stored hash, and tokens are not. -/
def withClient (client owner : Uuid) (hash : String) : (c : Call) → c.Answer :=
  Call.answerFrom (fun _ => Except.error .timedOut)
    (Store.Memory.answer (({} : Store.Memory).insertClient ⟨client, owner, hash, .argon2id⟩))

theorem withClient_client (client owner : Uuid) (hash : String) :
    withClient client owner hash (.store (.client client)) =
      Except.ok (some ⟨client, owner, hash, .argon2id⟩) := by
  let stored : ClientCredential := ⟨client, owner, hash, .argon2id⟩
  have hfind : (stored :: []).find? (·.client == client) = some stored :=
    List.find?_cons_of_pos (beq_self_eq_true client)
  exact congrArg Except.ok hfind

/-- Any spelling of the client id will do, and the blanks of a secret belong to it. -/
theorem issued_secret_authenticates_spaced :
    let secret := " s3\t~ "
    let hs : Http.Headers := [⟨"x-client-secret", secret.toUTF8.toList⟩,
      ⟨"x-client-id", " urn:uuid:00000000-0000-0000-0000-00000000000A ".toUTF8.toList⟩]
    ∃ text, (hash [] none (some secret)).answered withoutFiles = .hash text ∧
      Stage.outcome (withClient ⟨10⟩ ⟨3⟩ text) (Admission.authenticate (.ofHeaders hs) false) =
        .ok (some ⟨⟨3⟩, none, .clientCredentials⟩) := by
  intro secret hs
  have hprinted := hash_without_file [] withoutFiles (by decide : secret ≠ "")
  refine ⟨_, hprinted, ?_⟩
  have hid : ((hs.text? Credential.clientIdHeader).map Text.trim).bind Uuid.parse? = some ⟨10⟩ := by
    decide +kernel
  exact (issued_secret_authenticates hprinted rfl rfl (withClient_client _ _ _) rfl hid rfl).trans
    (if_pos (by decide))

/-- A secret with a letter that is not ASCII is hashed and stored, and it matches its hash. Its bytes
may stand in a header, but a request that presents them is refused for having no credential. -/
theorem issued_secret_refused :
    let secret := "\u00e9"
    let hs : Http.Headers := [⟨"x-client-secret", secret.toUTF8.toList⟩,
      ⟨"x-client-id", "00000000-0000-0000-0000-00000000000a".toUTF8.toList⟩]
    (∀ h ∈ hs, h.value.all Http.isValueByte = true) ∧
      ∃ text, (hash [] none (some secret)).answered withoutFiles = .hash text ∧
        Secret.verify secret text = (true, none) ∧
        Stage.outcome (withClient ⟨10⟩ ⟨3⟩ text) (Admission.authenticate (.ofHeaders hs) false) =
          .error ⟨.missingCredential, none⟩ := by
  intro secret hs
  have hprinted := hash_without_file [] withoutFiles (by decide : secret ≠ "")
  have habsent : Credential.ofHeaders hs = .absent := by decide +kernel
  refine ⟨by decide +kernel, _, hprinted,
    Secret.Verifier.verify_issue issues_usual (by decide) secret, ?_⟩
  rw [habsent]
  rfl

end Program

end Gatehouse
