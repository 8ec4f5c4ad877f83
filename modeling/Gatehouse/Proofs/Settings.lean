import Gatehouse.Proofs.Duration
import Gatehouse.Proofs.Format
import Gatehouse.Settings.Json

/-!
# Settings are read over the usual ones

Every member of written settings may be left out, sections as well as fields, and the usual value
takes its place; what is there is read as it was written, durations in whole milliseconds
(`Settings.read_over_defaults`). Each section is a record whose fields all have a value of their
own, so that any part of its members fills it (`Fills.kept`) and a field is found exactly when it
was kept (`Holds.kept`).
-/

namespace Gatehouse

namespace Json

/-! ## Leaving out members -/

mutual

/-- A value, found at the end of a way of names, without the members that are not kept. -/
def Value.pruned (keep : List String → Bool) (path : List String) : Value → Value
  | .object members => .object (prunedMembers keep path members)
  | v => v

def prunedMembers (keep : List String → Bool) (path : List String) :
    List (String × Value) → List (String × Value)
  | [] => []
  | (name, v) :: rest =>
    if keep (path ++ [name]) then
      (name, v.pruned keep (path ++ [name])) :: prunedMembers keep path rest
    else prunedMembers keep path rest

end

mutual

theorem Value.pruned_all (path : List String) : (v : Value) → v.pruned (fun _ => true) path = v
  | .object members => congrArg Value.object (prunedMembers_all path members)
  | .null | .bool _ | .number _ | .text _ | .array _ => rfl

theorem prunedMembers_all (path : List String) :
    (ms : List (String × Value)) → prunedMembers (fun _ => true) path ms = ms
  | [] => rfl
  | (name, v) :: rest => by
    rw [prunedMembers, if_pos rfl, Value.pruned_all, prunedMembers_all]

end

variable {α : Type} {dec : Decoder α} {a : α} {keep : List String → Bool} {path : List String}
  {name : String} {v w : Value} {fields : List Field} {ms : List (String × Value)}
  {member : String → Shape}

theorem mem_prunedMembers :
    (name, w) ∈ prunedMembers keep path ms ↔
      keep (path ++ [name]) = true ∧ ∃ v, (name, v) ∈ ms ∧ w = v.pruned keep (path ++ [name]) := by
  induction ms with
  | nil => simp [prunedMembers]
  | cons m ms ih =>
    obtain ⟨other, v⟩ := m
    rw [prunedMembers]
    by_cases hkeep : keep (path ++ [other]) = true
    · rw [if_pos hkeep, List.mem_cons, ih]
      constructor
      · rintro (heq | ⟨hname, v', hv', hw⟩)
        · cases heq
          exact ⟨hkeep, v, List.mem_cons_self, rfl⟩
        · exact ⟨hname, v', List.mem_cons_of_mem _ hv', hw⟩
      · rintro ⟨hname, v', hv', rfl⟩
        rcases List.mem_cons.mp hv' with heq | hv'
        · cases heq
          exact Or.inl rfl
        · exact Or.inr ⟨hname, v', hv', rfl⟩
    · rw [if_neg hkeep, ih]
      constructor
      · rintro ⟨hname, v', hv', hw⟩
        exact ⟨hname, v', List.mem_cons_of_mem _ hv', hw⟩
      · rintro ⟨hname, v', hv', rfl⟩
        rcases List.mem_cons.mp hv' with heq | hv'
        · cases heq
          exact absurd hname hkeep
        · exact ⟨hname, v', hv', rfl⟩

/-- A field that has a value of its own may be kept or left out. -/
theorem Fills.kept (h : Stands (member name) (v.pruned keep (path ++ [name])) dec a)
    (rest : Fills member fields (prunedMembers keep path ms)) :
    Fills member (.defaulted name dec :: fields) (prunedMembers keep path ((name, v) :: ms)) := by
  rw [prunedMembers]
  by_cases hkeep : keep (path ++ [name]) = true
  · rw [if_pos hkeep]
    exact .defaulted h rest
  · rw [if_neg hkeep]
    exact .missing (f := .defaulted name dec) nofun rest

/-- A field that was kept has the value that was written, and any other its own. -/
theorem Holds.kept {p : Present} (h : Holds member fields (prunedMembers keep path ms) p)
    (name : String) (hname : name ∈ fields.map (·.name)) (hv : ms.lookup name = some v)
    (hdec : Stands (member name) (v.pruned keep (path ++ [name])) dec a) (default : α) :
    p.withDefault name dec default = .ok (if keep (path ++ [name]) then a else default) := by
  by_cases hkeep : keep (path ++ [name]) = true
  · have hmem : (name, v) ∈ ms := by
      obtain ⟨before, after, rfl, -⟩ := List.lookup_eq_some_iff.mp hv
      simp
    rw [if_pos hkeep]
    exact h.withDefault name (mem_prunedMembers.mpr ⟨hkeep, v, hmem, rfl⟩) hdec default
  · have hnone : ∀ w, (name, w) ∉ prunedMembers keep path ms := by
      intro w hw
      exact hkeep (mem_prunedMembers.mp hw).1
    unfold Present.withDefault
    rw [h.missing name hname hnone, if_neg hkeep]

/-- What is true of the value of a field when it is missing, and of every value that it may have,
is true of its value. -/
theorem of_withDefault {P : α → Prop} {p : Present} {default : α}
    (h : p.withDefault name dec default = .ok a) (hdefault : P default)
    (hdec : ∀ d a, dec d = .ok a → P a) : P a := by
  rcases withDefault_ok h with ⟨d, -, hd⟩ | ⟨-, rfl⟩
  · exact hdec d a hd
  · exact hdefault

/-- A value that is also there for nothing at all is one that was read, missing or not. -/
theorem exists_of_withDefault {p : Present} {default : α}
    (h : p.withDefault name dec default = .ok a) (d₀ : Draft) (hdefault : dec d₀ = .ok default) :
    ∃ d, dec d = .ok a := by
  rcases withDefault_ok h with ⟨d, -, hd⟩ | ⟨-, rfl⟩
  · exact ⟨d, hd⟩
  · exact ⟨d₀, hdefault⟩

theorem textWith_eq_ok {parse : String → Option α} {d : Draft} :
    textWith parse d = .ok a ↔ ∃ s, d.Says s ∧ parse s = some a := by
  unfold textWith
  rw [bind_eq_ok]
  refine exists_congr fun s => and_congr text_eq_ok ?_
  cases parse s with
  | none => simp
  | some b => simp

theorem lt_of_withDefault {bound n default : Nat} {p : Present}
    (h : p.withDefault name (natBelow bound) default = .ok n) (hdefault : default < bound) :
    n < bound := by
  apply of_withDefault h hdefault
  intro d m hm
  exact (natBelow_eq_ok.mp hm).2

theorem stands_texts (l : List String) : Stands .plain (.texts l) (list text) l :=
  stands_plain (list_of_items fun _ _ => rfl)

theorem stands_textOrNull {toText : α → String} (h : ∀ a, Stands .plain (.text (toText a)) dec a)
    (o : Option α) : Stands .plain (.textOrNull (o.map toText)) (optional dec) o := by
  cases o with
  | none => exact stands_plain rfl
  | some a => exact stands_plain (map_eq_ok.mpr ⟨a, (h a).decoded _ rfl, rfl⟩)

theorem pruned_textOrNull (keep : List String → Bool) (path : List String) (o : Option String) :
    (Value.textOrNull o).pruned keep path = .textOrNull o := by
  cases o with
  | none => rfl
  | some s => rfl

end Json

open Json

namespace Settings

/-! ## Numbers that can be written and read -/

def durations (s : Settings) : List Duration :=
  [s.server.requestTimeout, s.auth.storageTimeout, s.oidc.connectTimeout, s.oidc.requestTimeout,
    s.oidc.keysTtl, s.database.acquireTimeout]

structure Bounded (s : Settings) : Prop where
  port : s.server.port < UInt16.size
  leeway : s.oidc.leeway < UInt64.size
  maxConnections : s.database.maxConnections < UInt32.size
  memoryKib : s.secrets.memoryKib < UInt32.size
  iterations : s.secrets.iterations < UInt32.size
  parallelism : s.secrets.parallelism < UInt32.size
  maxConcurrent : s.secrets.maxConcurrent < UInt64.size

theorem duration_eq_ok {d : Draft} {t : Duration} :
    duration d = .ok t ↔ ∃ s, d.Says s ∧ Duration.parse s = .ok t := by
  unfold duration
  rw [textWith_eq_ok]
  exact exists_congr fun s => and_congr_right fun _ => toOption_eq_some

theorem stands_duration {t : Duration} (h : t.Fits) :
    Stands .plain (durationValue t) duration t.whole := by
  apply stands_plain
  rw [duration_eq_ok]
  exact ⟨t.toText, ⟨none, rfl⟩, Duration.parse_toText h⟩

/-! ## What is left of settings -/

/-- Where the server listens, when only some members of its section are kept. -/
def Listener.kept (keep : List String → Bool) (l : Listener) : Listener :=
  let usual : Listener := {}
  { host := if keep ["server", "host"] then l.host else usual.host
    port := if keep ["server", "port"] then l.port else usual.port
    requestTimeout :=
      if keep ["server", "request_timeout"] then l.requestTimeout.whole
      else usual.requestTimeout }

def Auth.kept (keep : List String → Bool) (a : Auth) : Auth :=
  let usual : Auth := {}
  { administrator :=
      if keep ["auth", "cos_admin_user_id"] then a.administrator else usual.administrator
    trustDomain := if keep ["auth", "trust_domain"] then a.trustDomain else usual.trustDomain
    storageTimeout :=
      if keep ["auth", "storage_timeout"] then a.storageTimeout.whole else usual.storageTimeout
    publicPaths := if keep ["auth", "public_paths"] then a.publicPaths else usual.publicPaths }

def Issuer.kept (keep : List String → Bool) (i : Issuer) : Issuer :=
  let usual : Issuer := {}
  { issuer := if keep ["oidc", "issuer"] then i.issuer else usual.issuer
    audiences := if keep ["oidc", "audiences"] then i.audiences else usual.audiences
    discoveryUrl := if keep ["oidc", "discovery_url"] then i.discoveryUrl else usual.discoveryUrl
    leeway := if keep ["oidc", "leeway_secs"] then i.leeway else usual.leeway
    connectTimeout :=
      if keep ["oidc", "connect_timeout"] then i.connectTimeout.whole else usual.connectTimeout
    requestTimeout :=
      if keep ["oidc", "request_timeout"] then i.requestTimeout.whole else usual.requestTimeout
    keysTtl := if keep ["oidc", "jwks_ttl"] then i.keysTtl.whole else usual.keysTtl }

def Database.kept (keep : List String → Bool) (b : Database) : Database :=
  let usual : Database := {}
  { url := if keep ["database", "url"] then b.url else usual.url
    maxConnections :=
      if keep ["database", "max_connections"] then b.maxConnections else usual.maxConnections
    acquireTimeout :=
      if keep ["database", "acquire_timeout"] then b.acquireTimeout.whole
      else usual.acquireTimeout }

def keptSecrets (keep : List String → Bool) (c : Secret.Settings) : Secret.Settings :=
  let usual := defaultSecrets
  { memoryKib := if keep ["secrets", "memory_kib"] then c.memoryKib else usual.memoryKib
    iterations := if keep ["secrets", "iterations"] then c.iterations else usual.iterations
    parallelism := if keep ["secrets", "parallelism"] then c.parallelism else usual.parallelism
    maxConcurrent :=
      if keep ["secrets", "max_concurrent"] then c.maxConcurrent else usual.maxConcurrent }

/-- The settings of which only some members are kept: the others have their usual values, and the
durations are whole milliseconds. -/
def kept (keep : List String → Bool) (s : Settings) : Settings :=
  let usual : Settings := {}
  { envFiles := if keep ["env_files"] then s.envFiles else usual.envFiles
    server := if keep ["server"] then s.server.kept keep else usual.server
    auth := if keep ["auth"] then s.auth.kept keep else usual.auth
    oidc := if keep ["oidc"] then s.oidc.kept keep else usual.oidc
    database := if keep ["database"] then s.database.kept keep else usual.database
    secrets := if keep ["secrets"] then keptSecrets keep s.secrets else usual.secrets }

/-! ## Sections -/

def Listener.fields : List Field :=
  [.defaulted "host" text, .defaulted "port" (natBelow UInt16.size),
    .defaulted "request_timeout" duration]

def Listener.members (l : Listener) : List (String × Value) :=
  [("host", .text l.host), ("port", .number l.port),
    ("request_timeout", durationValue l.requestTimeout)]

def Listener.shape : Shape := .record (Listener.fields.map (·.name)) fun _ => .plain

theorem Listener.stands {l : Listener} (hport : l.port < UInt16.size)
    (htimeout : l.requestTimeout.Fits) (keep : List String → Bool) :
    Stands shape (.object (prunedMembers keep ["server"] l.members)) (decoder .json)
      (l.kept keep) := by
  have hhost := stands_text l.host
  have hport := stands_number hport
  have htimeout := stands_duration htimeout
  refine stands_record (.kept hhost (.kept hport (.kept htimeout .nil))) (by decide) ?_
  intro d p hp hholds
  have hhost := hholds.kept "host" (by decide) rfl hhost "127.0.0.1"
  have hport := hholds.kept "port" (by decide) rfl hport 8443
  have htimeout := hholds.kept "request_timeout" (by decide) rfl htimeout (.ofSeconds 30)
  exact bind_eq_ok.mpr ⟨p, hp, bind_eq_ok.mpr ⟨_, hhost, bind_eq_ok.mpr ⟨_, hport,
    bind_eq_ok.mpr ⟨_, htimeout, rfl⟩⟩⟩⟩

def Auth.fields : List Field :=
  [.defaulted "cos_admin_user_id" (Json.optional Uuid.decoder), .defaulted "trust_domain" text,
    .defaulted "storage_timeout" duration, .defaulted "public_paths" (list text)]

def Auth.members (a : Auth) : List (String × Value) :=
  [("cos_admin_user_id", .textOrNull (a.administrator.map (·.toText))),
    ("trust_domain", .text a.trustDomain), ("storage_timeout", durationValue a.storageTimeout),
    ("public_paths", .texts a.publicPaths)]

def Auth.shape : Shape := .record (Auth.fields.map (·.name)) fun _ => .plain

theorem Auth.stands {a : Auth} (htimeout : a.storageTimeout.Fits) (keep : List String → Bool) :
    Stands shape (.object (prunedMembers keep ["auth"] a.members)) (decoder .json)
      (a.kept keep) := by
  have hadministrator := stands_textOrNull Uuid.stands a.administrator
  rw [← pruned_textOrNull keep ["auth", "cos_admin_user_id"]] at hadministrator
  have hdomain := stands_text a.trustDomain
  have htimeout := stands_duration htimeout
  have hpaths := stands_texts a.publicPaths
  refine stands_record (.kept hadministrator (.kept hdomain (.kept htimeout (.kept hpaths .nil))))
    (by decide) ?_
  intro d p hp hholds
  have hadministrator := hholds.kept "cos_admin_user_id" (by decide) rfl hadministrator none
  have hdomain := hholds.kept "trust_domain" (by decide) rfl hdomain "authvertx.example.org"
  have htimeout := hholds.kept "storage_timeout" (by decide) rfl htimeout (.ofSeconds 5)
  have hpaths := hholds.kept "public_paths" (by decide) rfl hpaths ["/health"]
  exact bind_eq_ok.mpr ⟨p, hp, bind_eq_ok.mpr ⟨_, hadministrator, bind_eq_ok.mpr ⟨_, hdomain,
    bind_eq_ok.mpr ⟨_, htimeout, bind_eq_ok.mpr ⟨_, hpaths, rfl⟩⟩⟩⟩⟩

def Issuer.fields : List Field :=
  [.defaulted "issuer" text, .defaulted "audiences" (list text),
    .defaulted "discovery_url" (Json.optional text),
    .defaulted "leeway_secs" (natBelow UInt64.size), .defaulted "connect_timeout" duration,
    .defaulted "request_timeout" duration, .defaulted "jwks_ttl" duration]

def Issuer.members (i : Issuer) : List (String × Value) :=
  [("issuer", .text i.issuer), ("audiences", .texts i.audiences),
    ("discovery_url", .textOrNull i.discoveryUrl), ("leeway_secs", .number i.leeway),
    ("connect_timeout", durationValue i.connectTimeout),
    ("request_timeout", durationValue i.requestTimeout), ("jwks_ttl", durationValue i.keysTtl)]

def Issuer.shape : Shape := .record (Issuer.fields.map (·.name)) fun _ => .plain

theorem Issuer.stands {i : Issuer} (hleeway : i.leeway < UInt64.size)
    (hconnect : i.connectTimeout.Fits) (hrequest : i.requestTimeout.Fits) (hkeys : i.keysTtl.Fits)
    (keep : List String → Bool) :
    Stands shape (.object (prunedMembers keep ["oidc"] i.members)) (decoder .json)
      (i.kept keep) := by
  have hissuer := stands_text i.issuer
  have haudiences := stands_texts i.audiences
  have hurl := stands_textOrNull stands_text i.discoveryUrl
  rw [← pruned_textOrNull keep ["oidc", "discovery_url"], Option.map_id'] at hurl
  have hleeway := stands_number hleeway
  have hconnect := stands_duration hconnect
  have hrequest := stands_duration hrequest
  have hkeys := stands_duration hkeys
  refine stands_record (.kept hissuer (.kept haudiences (.kept hurl (.kept hleeway
    (.kept hconnect (.kept hrequest (.kept hkeys .nil))))))) (by decide) ?_
  intro d p hp hholds
  have hissuer := hholds.kept "issuer" (by decide) rfl hissuer
    "https://keycloak.example.org/realms/main"
  have haudiences := hholds.kept "audiences" (by decide) rfl haudiences []
  have hurl := hholds.kept "discovery_url" (by decide) rfl hurl none
  have hleeway := hholds.kept "leeway_secs" (by decide) rfl hleeway 60
  have hconnect := hholds.kept "connect_timeout" (by decide) rfl hconnect (.ofSeconds 3)
  have hrequest := hholds.kept "request_timeout" (by decide) rfl hrequest (.ofSeconds 5)
  have hkeys := hholds.kept "jwks_ttl" (by decide) rfl hkeys (.ofSeconds 3600)
  exact bind_eq_ok.mpr ⟨p, hp, bind_eq_ok.mpr ⟨_, hissuer, bind_eq_ok.mpr ⟨_, haudiences,
    bind_eq_ok.mpr ⟨_, hurl, bind_eq_ok.mpr ⟨_, hleeway, bind_eq_ok.mpr ⟨_, hconnect,
      bind_eq_ok.mpr ⟨_, hrequest, bind_eq_ok.mpr ⟨_, hkeys, rfl⟩⟩⟩⟩⟩⟩⟩⟩

def Database.fields : List Field :=
  [.defaulted "url" text, .defaulted "max_connections" (natBelow UInt32.size),
    .defaulted "acquire_timeout" duration]

def Database.members (b : Database) : List (String × Value) :=
  [("url", .text b.url), ("max_connections", .number b.maxConnections),
    ("acquire_timeout", durationValue b.acquireTimeout)]

def Database.shape : Shape := .record (Database.fields.map (·.name)) fun _ => .plain

theorem Database.stands {b : Database} (hconnections : b.maxConnections < UInt32.size)
    (htimeout : b.acquireTimeout.Fits) (keep : List String → Bool) :
    Stands shape (.object (prunedMembers keep ["database"] b.members)) (decoder .json)
      (b.kept keep) := by
  have hurl := stands_text b.url
  have hconnections := stands_number hconnections
  have htimeout := stands_duration htimeout
  refine stands_record (.kept hurl (.kept hconnections (.kept htimeout .nil))) (by decide) ?_
  intro d p hp hholds
  have hurl := hholds.kept "url" (by decide) rfl hurl "env:DATABASE_URL"
  have hconnections := hholds.kept "max_connections" (by decide) rfl hconnections 16
  have htimeout := hholds.kept "acquire_timeout" (by decide) rfl htimeout (.ofSeconds 3)
  exact bind_eq_ok.mpr ⟨p, hp, bind_eq_ok.mpr ⟨_, hurl, bind_eq_ok.mpr ⟨_, hconnections,
    bind_eq_ok.mpr ⟨_, htimeout, rfl⟩⟩⟩⟩

def secretsFields : List Field :=
  [.defaulted "memory_kib" (natBelow UInt32.size), .defaulted "iterations" (natBelow UInt32.size),
    .defaulted "parallelism" (natBelow UInt32.size),
    .defaulted "max_concurrent" (natBelow UInt64.size)]

def secretsMembers (c : Secret.Settings) : List (String × Value) :=
  [("memory_kib", .number c.memoryKib), ("iterations", .number c.iterations),
    ("parallelism", .number c.parallelism), ("max_concurrent", .number c.maxConcurrent)]

def secretsShape : Shape := .record (secretsFields.map (·.name)) fun _ => .plain

theorem stands_secrets {c : Secret.Settings} (hmemory : c.memoryKib < UInt32.size)
    (hiterations : c.iterations < UInt32.size) (hparallelism : c.parallelism < UInt32.size)
    (hconcurrent : c.maxConcurrent < UInt64.size) (keep : List String → Bool) :
    Stands secretsShape (.object (prunedMembers keep ["secrets"] (secretsMembers c)))
      (secretsDecoder .json) (keptSecrets keep c) := by
  have hmemory := stands_number hmemory
  have hiterations := stands_number hiterations
  have hparallelism := stands_number hparallelism
  have hconcurrent := stands_number hconcurrent
  refine stands_record (.kept hmemory (.kept hiterations (.kept hparallelism
    (.kept hconcurrent .nil)))) (by decide) ?_
  intro d p hp hholds
  have hmemory := hholds.kept "memory_kib" (by decide) rfl hmemory 19456
  have hiterations := hholds.kept "iterations" (by decide) rfl hiterations 2
  have hparallelism := hholds.kept "parallelism" (by decide) rfl hparallelism 1
  have hconcurrent := hholds.kept "max_concurrent" (by decide) rfl hconcurrent 8
  exact bind_eq_ok.mpr ⟨p, hp, bind_eq_ok.mpr ⟨_, hmemory, bind_eq_ok.mpr ⟨_, hiterations,
    bind_eq_ok.mpr ⟨_, hparallelism, bind_eq_ok.mpr ⟨_, hconcurrent, rfl⟩⟩⟩⟩⟩

/-! ## All sections -/

def fields : List Field :=
  [.defaulted "env_files" (list text), .defaulted "server" (Listener.decoder .json),
    .defaulted "auth" (Auth.decoder .json), .defaulted "oidc" (Issuer.decoder .json),
    .defaulted "database" (Database.decoder .json), .defaulted "secrets" (secretsDecoder .json)]

def members (s : Settings) : List (String × Value) :=
  [("env_files", .texts s.envFiles), ("server", .object s.server.members),
    ("auth", .object s.auth.members), ("oidc", .object s.oidc.members),
    ("database", .object s.database.members), ("secrets", .object (secretsMembers s.secrets))]

theorem toJson_eq (s : Settings) : s.toJson = .object s.members := rfl

def sectionShape : String → Shape
  | "server" => Listener.shape
  | "auth" => Auth.shape
  | "oidc" => Issuer.shape
  | "database" => Database.shape
  | "secrets" => secretsShape
  | _ => .plain

def shape : Shape := .record (fields.map (·.name)) sectionShape

theorem stands {s : Settings} (hbounded : s.Bounded) (hfits : ∀ t ∈ s.durations, t.Fits)
    (keep : List String → Bool) :
    Stands shape (s.toJson.pruned keep []) (decoder .json) (s.kept keep) := by
  simp only [durations, List.forall_mem_cons] at hfits
  obtain ⟨hserver, hstorage, hconnect, hrequest, hkeys, hacquire, -⟩ := hfits
  have hfiles := stands_texts s.envFiles
  have hserver := Listener.stands hbounded.port hserver keep
  have hauth := Auth.stands hstorage keep
  have hoidc := Issuer.stands hbounded.leeway hconnect hrequest hkeys keep
  have hdatabase := Database.stands hbounded.maxConnections hacquire keep
  have hsecrets := stands_secrets hbounded.memoryKib hbounded.iterations hbounded.parallelism
    hbounded.maxConcurrent keep
  have hfills : Fills sectionShape fields (prunedMembers keep [] s.members) :=
    .kept hfiles (.kept hserver (.kept hauth (.kept hoidc (.kept hdatabase (.kept hsecrets .nil)))))
  rw [toJson_eq, Value.pruned]
  refine stands_record hfills (by decide) ?_
  intro d p hp hholds
  have hfiles := hholds.kept "env_files" (by decide) rfl hfiles []
  have hserver := hholds.kept "server" (by decide) rfl hserver {}
  have hauth := hholds.kept "auth" (by decide) rfl hauth {}
  have hoidc := hholds.kept "oidc" (by decide) rfl hoidc {}
  have hdatabase := hholds.kept "database" (by decide) rfl hdatabase {}
  have hsecrets := hholds.kept "secrets" (by decide) rfl hsecrets defaultSecrets
  exact bind_eq_ok.mpr ⟨p, hp, bind_eq_ok.mpr ⟨_, hfiles, bind_eq_ok.mpr ⟨_, hserver,
    bind_eq_ok.mpr ⟨_, hauth, bind_eq_ok.mpr ⟨_, hoidc, bind_eq_ok.mpr ⟨_, hdatabase,
      bind_eq_ok.mpr ⟨_, hsecrets, rfl⟩⟩⟩⟩⟩⟩⟩

/-! ## What was read -/

theorem isRead_of_withDefault {p : Present} {name : String} {n : Nat} {t : Duration}
    (h : p.withDefault name duration (.ofSeconds n) = .ok t) (hn : n < Duration.countBound) :
    t.IsRead := by
  apply of_withDefault h (Duration.isRead_ofSeconds hn)
  intro d t ht
  obtain ⟨s, -, hs⟩ := duration_eq_ok.mp ht
  exact Duration.isRead_of_parse hs

variable {form : Form} {d : Draft}

theorem Listener.of_decoder {l : Listener} (h : decoder form d = .ok l) :
    l.port < UInt16.size ∧ l.requestTimeout.IsRead := by
  obtain ⟨p, -, h⟩ := bind_eq_ok.mp h
  obtain ⟨host, -, h⟩ := bind_eq_ok.mp h
  obtain ⟨port, hport, h⟩ := bind_eq_ok.mp h
  obtain ⟨timeout, htimeout, ⟨⟩⟩ := bind_eq_ok.mp h
  constructor
  · exact lt_of_withDefault hport (by decide)
  · exact isRead_of_withDefault htimeout (by decide)

theorem Auth.of_decoder {a : Auth} (h : decoder form d = .ok a) : a.storageTimeout.IsRead := by
  obtain ⟨p, -, h⟩ := bind_eq_ok.mp h
  obtain ⟨administrator, -, h⟩ := bind_eq_ok.mp h
  obtain ⟨domain, -, h⟩ := bind_eq_ok.mp h
  obtain ⟨timeout, htimeout, h⟩ := bind_eq_ok.mp h
  obtain ⟨paths, -, ⟨⟩⟩ := bind_eq_ok.mp h
  exact isRead_of_withDefault htimeout (by decide)

theorem Issuer.of_decoder {i : Issuer} (h : decoder form d = .ok i) :
    i.leeway < UInt64.size ∧ i.connectTimeout.IsRead ∧ i.requestTimeout.IsRead ∧
      i.keysTtl.IsRead := by
  obtain ⟨p, -, h⟩ := bind_eq_ok.mp h
  obtain ⟨issuer, -, h⟩ := bind_eq_ok.mp h
  obtain ⟨audiences, -, h⟩ := bind_eq_ok.mp h
  obtain ⟨url, -, h⟩ := bind_eq_ok.mp h
  obtain ⟨leeway, hleeway, h⟩ := bind_eq_ok.mp h
  obtain ⟨connect, hconnect, h⟩ := bind_eq_ok.mp h
  obtain ⟨request, hrequest, h⟩ := bind_eq_ok.mp h
  obtain ⟨keys, hkeys, ⟨⟩⟩ := bind_eq_ok.mp h
  refine ⟨lt_of_withDefault hleeway (by decide), ?_, ?_, ?_⟩
  · exact isRead_of_withDefault hconnect (by decide)
  · exact isRead_of_withDefault hrequest (by decide)
  · exact isRead_of_withDefault hkeys (by decide)

theorem Database.of_decoder {b : Database} (h : decoder form d = .ok b) :
    b.maxConnections < UInt32.size ∧ b.acquireTimeout.IsRead := by
  obtain ⟨p, -, h⟩ := bind_eq_ok.mp h
  obtain ⟨url, -, h⟩ := bind_eq_ok.mp h
  obtain ⟨connections, hconnections, h⟩ := bind_eq_ok.mp h
  obtain ⟨timeout, htimeout, ⟨⟩⟩ := bind_eq_ok.mp h
  constructor
  · exact lt_of_withDefault hconnections (by decide)
  · exact isRead_of_withDefault htimeout (by decide)

theorem of_secretsDecoder {c : Secret.Settings} (h : secretsDecoder form d = .ok c) :
    c.memoryKib < UInt32.size ∧ c.iterations < UInt32.size ∧ c.parallelism < UInt32.size ∧
      c.maxConcurrent < UInt64.size := by
  obtain ⟨p, -, h⟩ := bind_eq_ok.mp h
  obtain ⟨memory, hmemory, h⟩ := bind_eq_ok.mp h
  obtain ⟨iterations, hiterations, h⟩ := bind_eq_ok.mp h
  obtain ⟨parallelism, hparallelism, h⟩ := bind_eq_ok.mp h
  obtain ⟨concurrent, hconcurrent, ⟨⟩⟩ := bind_eq_ok.mp h
  refine ⟨?_, ?_, ?_, ?_⟩
  · exact lt_of_withDefault hmemory (by decide)
  · exact lt_of_withDefault hiterations (by decide)
  · exact lt_of_withDefault hparallelism (by decide)
  · exact lt_of_withDefault hconcurrent (by decide)

theorem of_decoder {s : Settings} (h : decoder form d = .ok s) :
    s.Bounded ∧ ∀ t ∈ s.durations, t.IsRead := by
  obtain ⟨p, -, h⟩ := bind_eq_ok.mp h
  obtain ⟨files, -, h⟩ := bind_eq_ok.mp h
  obtain ⟨server, hserver, h⟩ := bind_eq_ok.mp h
  obtain ⟨auth, hauth, h⟩ := bind_eq_ok.mp h
  obtain ⟨oidc, hoidc, h⟩ := bind_eq_ok.mp h
  obtain ⟨database, hdatabase, h⟩ := bind_eq_ok.mp h
  obtain ⟨secrets, hsecrets, ⟨⟩⟩ := bind_eq_ok.mp h
  -- A section that is missing has the value that an empty one is read as.
  obtain ⟨_, hserver⟩ := exists_of_withDefault hserver (.object [] .closed) rfl
  obtain ⟨_, hauth⟩ := exists_of_withDefault hauth (.object [] .closed) rfl
  obtain ⟨_, hoidc⟩ := exists_of_withDefault hoidc (.object [] .closed) rfl
  obtain ⟨_, hdatabase⟩ := exists_of_withDefault hdatabase (.object [] .closed) rfl
  obtain ⟨_, hsecrets⟩ := exists_of_withDefault hsecrets (.object [] .closed) rfl
  obtain ⟨hport, hserver⟩ := Listener.of_decoder hserver
  have hauth := Auth.of_decoder hauth
  obtain ⟨hleeway, hconnect, hrequest, hkeys⟩ := Issuer.of_decoder hoidc
  obtain ⟨hconnections, hacquire⟩ := Database.of_decoder hdatabase
  obtain ⟨hmemory, hiterations, hparallelism, hconcurrent⟩ := of_secretsDecoder hsecrets
  constructor
  · exact ⟨hport, hleeway, hconnections, hmemory, hiterations, hparallelism, hconcurrent⟩
  · simp only [durations, List.forall_mem_cons]
    exact ⟨hserver, hauth, hconnect, hrequest, hkeys, hacquire, nofun⟩

theorem kept_all {s : Settings} (h : ∀ t ∈ s.durations, t.whole = t) :
    s.kept (fun _ => true) = s := by
  simp only [durations, List.forall_mem_cons] at h
  obtain ⟨hserver, hstorage, hconnect, hrequest, hkeys, hacquire, -⟩ := h
  simp [kept, Listener.kept, Auth.kept, Issuer.kept, Database.kept, keptSecrets, *]

/-- Settings are read from the text that is written for them, also when sections or fields are
left out of it and the rest is put in another order: each value that was kept is the one written,
with a duration in whole milliseconds, and the others are the usual ones. So settings that were
read before, from any form, are read as they are. -/
theorem read_over_defaults :
    (∀ (s : Settings) (keep : List String → Bool), s.Bounded → (∀ t ∈ s.durations, t.Fits) →
      ReadsBack shape (s.toJson.pruned keep []) (decoder .json) (s.kept keep)) ∧
    ∀ (form : Form) (d : Draft) (s : Settings), decoder form d = .ok s →
      ReadsBack shape s.toJson (decoder .json) s := by
  constructor
  · intro s keep hbounded hfits
    exact (stands hbounded hfits keep).readsBack
  · intro form d s hread
    obtain ⟨hbounded, hdurations⟩ := of_decoder hread
    have hfits : ∀ t ∈ s.durations, t.Fits := fun t ht => (hdurations t ht).fits
    -- What was read is whole, so nothing is lost when every member is kept.
    have hstands := stands hbounded hfits fun _ => true
    rw [Value.pruned_all, kept_all fun t ht => (hdurations t ht).whole] at hstands
    exact hstands.readsBack

/-- Two members of one section are left, the last one first, and a nanosecond is lost. What is
read from nothing at all is written and read, too. -/
theorem read_over_defaults_partly :
    let s : Settings := { database := ⟨"env:ADDRESS", 4, ⟨1500000001⟩⟩, secrets := ⟨64, 1, 2, 3⟩ }
    let keep (path : List String) : Bool :=
      path ∈ [["database"], ["database", "url"], ["database", "acquire_timeout"]]
    let key (name : String) := quote name ++ [':']
    let url := key "url" ++ quote "env:ADDRESS"
    let timeout := key "acquire_timeout" ++ quote "1500ms"
    let cs := objectText [key "database" ++ objectText [timeout, url]]
    (s.Bounded ∧ (∀ t ∈ s.durations, t.Fits) ∧ Rearranged shape (s.toJson.pruned keep []) cs ∧
      decode (decoder .json) (String.ofList cs) =
        .ok { database := ⟨"env:ADDRESS", 16, ⟨1500000000⟩⟩ }) ∧
    decoder .json (.object [] .closed) = .ok {} ∧
      ReadsBack shape (toJson {}) (decoder .json) {} := by
  intro s keep key url timeout cs
  obtain ⟨hover, hread⟩ := read_over_defaults
  have hbounded : s.Bounded := by constructor <;> decide
  have hfits : ∀ t ∈ s.durations, t.Fits := by decide
  have hdatabase : Rearranged Database.shape
      (.object (prunedMembers keep ["database"] s.database.members))
      (objectText [timeout, url]) := by
    refine ⟨_, [url, timeout], [], [timeout, url], rfl, ?_, by simp, .swap _ _ _, rfl⟩
    have htimeout : Rearranged .plain (durationValue ⟨1500000001⟩) (quote "1500ms") :=
      congrArg quote (by decide : "1500ms" = Duration.toText ⟨1500000001⟩)
    exact .cons ⟨_, rfl, rfl⟩ (.cons ⟨_, rfl, htimeout⟩ .nil)
  have hcs : Rearranged shape (s.toJson.pruned keep []) cs :=
    ⟨_, _, [], _, rfl, .cons ⟨_, rfl, hdatabase⟩ .nil, by simp, .refl _, rfl⟩
  have hkept : s.kept keep = { database := ⟨"env:ADDRESS", 16, ⟨1500000000⟩⟩ } := by decide
  refine ⟨⟨hbounded, hfits, hcs, ?_⟩, rfl, hread .json (.object [] .closed) {} rfl⟩
  rw [← hkept]
  exact (hover s keep hbounded hfits).rearranged cs hcs

end Settings

end Gatehouse
