import Gatehouse.Proofs.OpenId

/-!
# How long keys are kept

A search for a key makes no request, one, or two, and which of these it is depends on the keys at
hand and on what the provider serves (`Search`). The keys at hand after any calls are those of the
last request for keys that succeeded (`Course.latest`), so that every key that is used was served
either during the very call or less than the time to live before it (`keys_expire`).
-/

namespace Gatehouse.Provider

open Json Token Signature

/-- Keys that were fetched less than their time to live ago. -/
def CachedKeys.IsYoung (c : CachedKeys) (ttl : Duration) (now : Nat) : Prop :=
  (Duration.ofMillis (now - c.time)).nanos < ttl.nanos

theorem KeyCache.fresh?_eq_some {cache : KeyCache} {ttl : Duration} {now : Nat} {keys : KeySet} :
    cache.fresh? ttl now = some keys ↔ ∃ c, cache = some c ∧ c.IsYoung ttl now ∧ c.keys = keys := by
  unfold fresh? CachedKeys.IsYoung
  simp only [Option.map_eq_some_iff, Option.filter_eq_some_iff, decide_eq_true_eq, and_assoc]

namespace OpenId

variable {p : OpenId} {id : String} {moment : Moment} {cache cache' : KeyCache} {log : WebLog}

/-! ## Searching for a key -/

/-- What looking for an id in the keys of a reply comes to. -/
def lookIn (id : String) : Except ProviderFault KeySet → Except ProviderFault PublicKey
  | .error fault => .error fault
  | .ok keys =>
    match keys.publicKey? id with
    | some key => .ok key
    | none => .error (.unknownKeyId id)

/-- The ways in which a search for a key may go. Keys that lack it are fetched once more, be they at
hand or fetched just now. -/
inductive Search (p : OpenId) (id : String) (moment : Moment) (cache : KeyCache) :
    WebLog → Except ProviderFault PublicKey → Prop
  | atHand {keys : KeySet} {key : PublicKey}
      (fresh : cache.fresh? p.keysTtl moment.now = some keys)
      (found : keys.publicKey? id = some key) : Search p id moment cache [] (.ok key)
  | renewed {keys : KeySet} (reply : WebReply)
      (fresh : cache.fresh? p.keysTtl moment.now = some keys)
      (missing : keys.publicKey? id = none) :
      Search p id moment cache [⟨p.keysFetch, reply⟩]
        (lookIn id (reply.read moment.silence KeySet.decoder))
  | failed {reply : WebReply} {fault : ProviderFault}
      (stale : cache.fresh? p.keysTtl moment.now = none)
      (fails : reply.read moment.silence KeySet.decoder = .error fault) :
      Search p id moment cache [⟨p.keysFetch, reply⟩] (.error fault)
  | fetched {reply : WebReply} {keys : KeySet} {key : PublicKey}
      (stale : cache.fresh? p.keysTtl moment.now = none)
      (serves : reply.read moment.silence KeySet.decoder = .ok keys)
      (found : keys.publicKey? id = some key) :
      Search p id moment cache [⟨p.keysFetch, reply⟩] (.ok key)
  | refetched {first : WebReply} {keys : KeySet} (last : WebReply)
      (stale : cache.fresh? p.keysTtl moment.now = none)
      (serves : first.read moment.silence KeySet.decoder = .ok keys)
      (missing : keys.publicKey? id = none) :
      Search p id moment cache [⟨p.keysFetch, first⟩, ⟨p.keysFetch, last⟩]
        (lookIn id (last.read moment.silence KeySet.decoder))

theorem runs_lookAgain {r : Except ProviderFault PublicKey} :
    Runs (do
      match (← p.refreshKeys).publicKey? id with
      | some key => return key
      | none => throw (.unknownKeyId id)) moment cache log r cache' ↔
      ∃ reply, log = [⟨p.keysFetch, reply⟩] ∧
        r = lookIn id (reply.read moment.silence KeySet.decoder) ∧
        cache' = (p.latest (log.sentAt moment.now)).or cache := by
  have hlook : ∀ (keys : KeySet) (cache : KeyCache) (log : WebLog)
      (r : Except ProviderFault PublicKey) (cache' : KeyCache),
      Runs (match keys.publicKey? id with
        | some key => pure key
        | none => throw (.unknownKeyId id) : Lookup PublicKey) moment cache log r cache' ↔
        log = [] ∧ r = lookIn id (.ok keys) ∧ cache' = cache := by
    intro keys cache log r cache'
    unfold lookIn
    dsimp only
    cases keys.publicKey? id with
    | some key => exact runs_pure
    | none => exact runs_throw
  rw [runs_bind]
  constructor
  · rintro (⟨fault, rfl, hfetch⟩ | ⟨keys, between, first, last, rfl, hfetch, hlast⟩)
    · obtain ⟨reply, rfl, hread, hcache⟩ := runs_refreshKeys_iff.mp hfetch
      exact ⟨reply, rfl, by rw [← hread]; rfl, hcache⟩
    · obtain ⟨reply, rfl, hread, hcache⟩ := runs_refreshKeys_iff.mp hfetch
      obtain ⟨rfl, rfl, rfl⟩ := (hlook ..).mp hlast
      rw [List.append_nil]
      exact ⟨reply, rfl, by rw [← hread], hcache⟩
  · rintro ⟨reply, rfl, rfl, hcache⟩
    cases hread : reply.read moment.silence KeySet.decoder with
    | error fault =>
      exact Or.inl ⟨fault, rfl, runs_refreshKeys_iff.mpr ⟨reply, rfl, hread.symm, hcache⟩⟩
    | ok keys =>
      exact Or.inr ⟨keys, cache', _, [], (List.append_nil _).symm,
        runs_refreshKeys_iff.mpr ⟨reply, rfl, hread.symm, hcache⟩, (hlook ..).mpr ⟨rfl, rfl, rfl⟩⟩

/-- A key is found in the ways that a search for it may go, and in no other. -/
theorem runs_findKey_iff {r : Except ProviderFault PublicKey} :
    Runs (p.findKey id) moment cache log r cache' ↔
      p.Search id moment cache log r ∧ cache' = (p.latest (log.sentAt moment.now)).or cache := by
  constructor
  · intro h
    refine ⟨?_, follows_findKey id h⟩
    unfold findKey at h
    rcases runs_bind.mp h with ⟨fault, rfl, hkeys⟩ | ⟨keys, between, first, last, rfl, hkeys, hlast⟩
    · rw [runs_currentKeys_iff] at hkeys
      split at hkeys
      · cases hkeys.2.1
      · next hstale =>
        obtain ⟨reply, rfl, hread, -⟩ := runs_refreshKeys_iff.mp hkeys
        exact .failed hstale hread.symm
    · rw [runs_currentKeys_iff] at hkeys
      split at hkeys
      · next hfresh =>
        obtain ⟨rfl, ⟨⟩, rfl⟩ := hkeys
        split at hlast
        · next hfound =>
          obtain ⟨rfl, rfl, -⟩ := runs_pure.mp hlast
          exact .atHand hfresh hfound
        · next hmissing =>
          obtain ⟨reply, rfl, rfl, -⟩ := runs_lookAgain.mp hlast
          exact .renewed reply hfresh hmissing
      · next hstale =>
        obtain ⟨reply, rfl, hread, -⟩ := runs_refreshKeys_iff.mp hkeys
        split at hlast
        · next hfound =>
          obtain ⟨rfl, rfl, -⟩ := runs_pure.mp hlast
          exact .fetched hstale hread.symm hfound
        · next hmissing =>
          obtain ⟨last, rfl, rfl, -⟩ := runs_lookAgain.mp hlast
          exact .refetched last hstale hread.symm hmissing
  · rintro ⟨h, rfl⟩
    unfold findKey
    have hcurrent : ∀ {log r cache'}, cache.fresh? p.keysTtl moment.now = none →
        Runs p.refreshKeys moment cache log r cache' →
        Runs p.currentKeys moment cache log r cache' := by
      intro log r cache' hstale hrun
      rw [runs_currentKeys_iff, hstale]
      exact hrun
    cases h with
    | atHand hfresh hfound => exact runs_findKey_of_fresh hfresh hfound
    | @renewed keys reply hfresh hmissing =>
      refine runs_bind.mpr (Or.inr ⟨keys, cache, [], _, rfl, ?_, ?_⟩)
      · rw [runs_currentKeys_iff, hfresh]
        exact ⟨rfl, rfl, rfl⟩
      · rw [hmissing]
        exact runs_lookAgain.mpr ⟨reply, rfl, rfl, rfl⟩
    | failed hstale hfails =>
      refine runs_bind.mpr (Or.inl ⟨_, rfl, ?_⟩)
      exact hcurrent hstale (runs_refreshKeys_iff.mpr ⟨_, rfl, hfails.symm, rfl⟩)
    | @fetched reply keys key hstale hserves hfound =>
      refine runs_bind.mpr (Or.inr ⟨keys, _, _, [], (List.append_nil _).symm,
        hcurrent hstale (runs_refreshKeys_iff.mpr ⟨_, rfl, hserves.symm, rfl⟩), ?_⟩)
      rw [hfound]
      exact runs_pure.mpr ⟨rfl, rfl, rfl⟩
    | @refetched first keys last hstale hserves hmissing =>
      refine runs_bind.mpr (Or.inr ⟨keys, _, [_], [_], rfl,
        hcurrent hstale (runs_refreshKeys_iff.mpr ⟨_, rfl, hserves.symm, rfl⟩), ?_⟩)
      rw [hmissing]
      refine runs_lookAgain.mpr ⟨last, rfl, rfl, ?_⟩
      rw [← Option.or_assoc, ← latest_append]
      rfl

theorem lookIn_eq_ok {read : Except ProviderFault KeySet} {key : PublicKey} :
    lookIn id read = .ok key ↔ ∃ keys, read = .ok keys ∧ keys.publicKey? id = some key := by
  unfold lookIn
  cases read with
  | error fault => simp
  | ok keys =>
    cases hkey : keys.publicKey? id with
    | none => simp [hkey]
    | some other => simp [hkey]

/-! ## Calls in a row -/

/-- The time of the last call, the requests made so far and the keys at hand, after calls at times
that never go back. There are no keys at hand at first. -/
inductive Course (p : OpenId) : Nat → List Sent → KeyCache → Prop
  | start : Course p 0 [] none
  | call {before : Nat} {history : List Sent} {log : WebLog} {cache cache' : KeyCache}
      {moment : Moment} (c : ProviderCall) {r : c.Answer} (past : Course p before history cache)
      (later : before ≤ moment.now) (run : Runs (p.lookup c) moment cache log r cache') :
      Course p moment.now (history ++ log.sentAt moment.now) cache'

variable {before : Nat} {history : List Sent}

/-- The keys at hand are those of the last request for keys that succeeded, with its time. -/
theorem Course.latest (h : p.Course before history cache) : cache = p.latest history := by
  induction h with
  | start => rfl
  | call c past later run ih =>
    have hfollows := follows_lookup c run
    rw [hfollows, ih, latest_append]

theorem Course.past (h : p.Course before history cache) : ∀ s ∈ history, s.time ≤ before := by
  induction h with
  | start =>
    intro s hs
    cases hs
  | call c past later run ih =>
    intro s hs
    rcases List.mem_append.mp hs with hold | hnew
    · exact (ih s hold).trans later
    · obtain ⟨e, -, rfl⟩ := List.mem_map.mp hnew
      exact le_rfl

theorem served?_time {s : Sent} {c : CachedKeys} (h : p.served? s = some c) : c.time = s.time := by
  unfold served? at h
  split at h
  · obtain ⟨keys, -, rfl⟩ := Option.map_eq_some_iff.mp h
    rfl
  · cases h

/-- Keys at hand were served by one of the requests, at the time they bear. -/
theorem Course.served {c : CachedKeys} (h : p.Course before history (some c)) :
    c.time ≤ before ∧ ∃ s ∈ history, p.served? s = some c := by
  have hlatest : p.latest history = some c := h.latest.symm
  obtain ⟨s, hs, hserved⟩ := List.mem_filterMap.mp (List.mem_of_getLast? hlatest)
  refine ⟨?_, s, hs, hserved⟩
  rw [served?_time hserved]
  exact h.past s hs

/-- A search that asks for keys no more than it has to, and uses none that are too old. -/
structure Sparing (p : OpenId) (id : String) (moment : Moment) (history : List Sent)
    (cache : KeyCache) (log : WebLog) (found : Except ProviderFault PublicKey) (cache' : KeyCache) :
    Prop where
  twice : log.length ≤ 2
  forKeys : ∀ e ∈ log, e.1 = p.keysFetch
  sated : ∀ c key, cache = some c → c.IsYoung p.keysTtl moment.now →
    c.keys.publicKey? id = some key → log = []
  again : ∀ first last, log = [first, last] →
    ∃ keys, first.2.keys? = some keys ∧ keys.publicKey? id = none
  /-- A key that is used was served during the call, or before it and not too long ago. -/
  recent : ∀ key, found = .ok key → ∃ s ∈ history ++ log.sentAt moment.now, ∃ c,
    p.served? s = some c ∧ c.keys.publicKey? id = some key ∧
      (s ∈ log.sentAt moment.now ∨ c.time ≤ moment.now ∧ c.IsYoung p.keysTtl moment.now)
  /-- A request that fails is the last one, and leaves the keys at hand as they were. -/
  failing : ∀ (earlier : WebLog) e rest, log = earlier ++ e :: rest → e.2.keys? = none →
    rest = [] ∧ cache' = (p.latest (earlier.sentAt moment.now)).or cache ∧
      ∃ fault, found = .error fault

theorem recent_of_reply {reply : WebReply} {keys : KeySet} {key : PublicKey}
    (hlog : ⟨p.keysFetch, reply⟩ ∈ log)
    (hserves : reply.read moment.silence KeySet.decoder = .ok keys)
    (hkey : keys.publicKey? id = some key) :
    ∃ s ∈ history ++ log.sentAt moment.now, ∃ c,
      p.served? s = some c ∧ c.keys.publicKey? id = some key ∧
        (s ∈ log.sentAt moment.now ∨ c.time ≤ moment.now ∧ c.IsYoung p.keysTtl moment.now) := by
  have hsent : (⟨moment.now, p.keysFetch, reply⟩ : Sent) ∈ log.sentAt moment.now :=
    List.mem_map.mpr ⟨_, hlog, rfl⟩
  refine ⟨_, List.mem_append_right history hsent, ⟨keys, moment.now⟩, ?_, hkey, Or.inl hsent⟩
  rw [served?_keysFetch, (WebReply.read_eq_ok_iff moment.silence).mp hserves]
  rfl

theorem Search.recent {found : Except ProviderFault PublicKey} {key : PublicKey}
    (h : p.Search id moment cache log found) (past : p.Course before history cache)
    (later : before ≤ moment.now) (hfound : found = .ok key) :
    ∃ s ∈ history ++ log.sentAt moment.now, ∃ c,
      p.served? s = some c ∧ c.keys.publicKey? id = some key ∧
        (s ∈ log.sentAt moment.now ∨ c.time ≤ moment.now ∧ c.IsYoung p.keysTtl moment.now) := by
  cases h with
  | atHand fresh found =>
    cases hfound
    obtain ⟨c, rfl, hyoung, rfl⟩ := KeyCache.fresh?_eq_some.mp fresh
    obtain ⟨htime, s, hs, hserved⟩ := past.served
    exact ⟨s, List.mem_append_left _ hs, c, hserved, found, Or.inr ⟨htime.trans later, hyoung⟩⟩
  | renewed reply fresh missing =>
    obtain ⟨keys, hserves, hkey⟩ := lookIn_eq_ok.mp hfound
    exact recent_of_reply List.mem_cons_self hserves hkey
  | failed stale fails => cases hfound
  | fetched stale serves found =>
    cases hfound
    exact recent_of_reply List.mem_cons_self serves found
  | refetched last stale serves missing =>
    obtain ⟨keys, hserves, hkey⟩ := lookIn_eq_ok.mp hfound
    exact recent_of_reply (List.mem_cons_of_mem _ List.mem_cons_self) hserves hkey

theorem lookIn_of_no_keys {reply : WebReply} (h : reply.keys? = none) :
    ∃ fault, lookIn id (reply.read moment.silence KeySet.decoder) = .error fault := by
  cases hread : reply.read moment.silence KeySet.decoder with
  | error fault => exact ⟨fault, rfl⟩
  | ok keys =>
    rw [WebReply.read_eq_ok_iff, h] at hread
    cases hread

/-- A request for keys that fails is the last one of a search, which fails with it. -/
theorem Search.failing {found : Except ProviderFault PublicKey}
    (h : p.Search id moment cache log found) {earlier rest : WebLog}
    {e : (_ : Fetch) × WebReply} (hlog : log = earlier ++ e :: rest) (he : e.2.keys? = none) :
    rest = [] ∧ e.1 = p.keysFetch ∧ ∃ fault, found = .error fault := by
  have hone : ∀ {reply : WebReply} {earlier : WebLog},
      [⟨p.keysFetch, reply⟩] = earlier ++ e :: rest →
      earlier = [] ∧ e = ⟨p.keysFetch, reply⟩ ∧ rest = [] := by
    intro reply earlier hlog
    cases earlier with
    | nil =>
      cases hlog
      exact ⟨rfl, rfl, rfl⟩
    | cons first earlier => simp at hlog
  have hserved : ∀ {reply : WebReply} {keys : KeySet},
      reply.read moment.silence KeySet.decoder = .ok keys → reply.keys? ≠ none := by
    intro reply keys hread
    rw [(WebReply.read_eq_ok_iff moment.silence).mp hread]
    exact Option.some_ne_none keys
  cases h with
  | atHand fresh found => simp at hlog
  | renewed reply fresh missing =>
    obtain ⟨rfl, rfl, rfl⟩ := hone hlog
    exact ⟨rfl, rfl, lookIn_of_no_keys he⟩
  | failed stale fails =>
    obtain ⟨rfl, rfl, rfl⟩ := hone hlog
    exact ⟨rfl, rfl, _, rfl⟩
  | fetched stale serves found =>
    obtain ⟨rfl, rfl, rfl⟩ := hone hlog
    exact absurd he (hserved serves)
  | refetched last stale serves missing =>
    -- the first of the two requests cannot be the one that fails, since it served keys
    cases earlier with
    | nil =>
      cases hlog
      exact absurd he (hserved serves)
    | cons first earlier =>
      injection hlog with hfirst hlast
      obtain ⟨rfl, rfl, rfl⟩ := hone hlast
      exact ⟨rfl, rfl, lookIn_of_no_keys he⟩

theorem Search.sparing {found : Except ProviderFault PublicKey}
    (h : p.Search id moment cache log found) (past : p.Course before history cache)
    (later : before ≤ moment.now) :
    p.Sparing id moment history cache log found
      ((p.latest (log.sentAt moment.now)).or cache) where
  twice := by
    cases h <;> simp
  forKeys := by
    cases h <;> simp
  sated c key hc hyoung hkey := by
    have hfresh : cache.fresh? p.keysTtl moment.now = some c.keys :=
      KeyCache.fresh?_eq_some.mpr ⟨c, hc, hyoung, rfl⟩
    cases h with
    | atHand fresh found => rfl
    | renewed reply fresh missing =>
      rw [hfresh] at fresh
      cases fresh
      rw [hkey] at missing
      cases missing
    | failed stale fails =>
      rw [hfresh] at stale
      cases stale
    | fetched stale serves found =>
      rw [hfresh] at stale
      cases stale
    | refetched last stale serves missing =>
      rw [hfresh] at stale
      cases stale
  again first last hlog := by
    cases h with
    | atHand fresh found => cases hlog
    | renewed reply fresh missing => cases hlog
    | failed stale fails => cases hlog
    | fetched stale serves found => cases hlog
    | refetched reply stale serves missing =>
      cases hlog
      exact ⟨_, (WebReply.read_eq_ok_iff moment.silence).mp serves, missing⟩
  recent key hfound := h.recent past later hfound
  failing earlier e rest hlog he := by
    obtain ⟨rfl, hfetch, hfault⟩ := h.failing hlog he
    refine ⟨rfl, ?_, hfault⟩
    have hnone : p.latest (WebLog.sentAt [e] moment.now) = none := by
      rw [WebLog.sentAt, List.map_singleton, latest_single, hfetch, served?_keysFetch, he]
      rfl
    rw [hlog, WebLog.sentAt_append, latest_append, hnone, Option.none_or]

/-- After any calls at times that never go back, whatever the requests were answered with: the keys
at hand are those of the last request that succeeded, a token is looked up only once its header was
read and names a key, and the search for the key is sparing. -/
theorem keys_expire (p : OpenId) (token : String) (before : Nat) (moment : Moment)
    (history : List Sent) (cache cache' : KeyCache) (log : WebLog)
    (r : Except ProviderFault ValidatedToken) (past : p.Course before history cache)
    (later : before ≤ moment.now)
    (run : Runs (p.validate token) moment cache log r cache') :
    cache = p.latest history ∧ cache' = p.latest (history ++ log.sentAt moment.now) ∧
      (log ≠ [] → ∃ parts header id,
        takeApart token = .ok (parts, header) ∧ header.keyId = some id) ∧
      ∀ parts header id, takeApart token = .ok (parts, header) → header.keyId = some id →
        ∃ found, r = found >>= p.judge moment parts header token ∧
          p.Sparing id moment history cache log found cache' := by
  have hcourse : p.Course moment.now (history ++ log.sentAt moment.now) cache' :=
    past.call (.validate token) later run
  refine ⟨past.latest, hcourse.latest, ?_, ?_⟩
  · intro hlog
    rw [runs_validate_cases] at run
    split at run
    · exact absurd run.1 hlog
    · next parts header hparts =>
      split at run
      · exact absurd run.1 hlog
      · next id hid => exact ⟨parts, header, id, hparts, hid⟩
  · intro parts header id hparts hid
    rw [runs_validate_cases, hparts] at run
    dsimp only at run
    rw [hid] at run
    obtain ⟨found, hfind, hr⟩ := run
    obtain ⟨hsearch, hcache⟩ := runs_findKey_iff.mp hfind
    refine ⟨found, hr, ?_⟩
    rw [hcache]
    exact hsearch.sparing past later

/-! ## Keys that have just become too old -/

def noKeysReply : WebReply := .response 200 "\x7b\"keys\":[]\x7d"

def oneKeyReply : WebReply :=
  .response 200 "\x7b\"keys\":[\x7b\"kty\":\"RSA\",\"kid\":\"k\",\"n\":\"AQ\",\"e\":\"Aw\"\x7d]\x7d"

def oneKey : KeySet := ⟨[⟨some "k", .rsa "AQ" "Aw"⟩]⟩

theorem noKeysReply_read : noKeysReply.read silenceFault KeySet.decoder = .ok ⟨[]⟩ := by
  cbv

theorem oneKeyReply_read : oneKeyReply.read silenceFault KeySet.decoder = .ok oneKey := by
  cbv

theorem lookIn_oneKey :
    lookIn "k" (oneKeyReply.read silenceFault KeySet.decoder) = .ok (.rsa ⟨[1], [3]⟩) := by
  rw [oneKeyReply_read]
  cbv

/-- A first call finds no keys, and asks once more. -/
def sampleLog : WebLog :=
  [⟨sampleProvider.keysFetch, noKeysReply⟩, ⟨sampleProvider.keysFetch, oneKeyReply⟩]

theorem latest_sampleLog : sampleProvider.latest (sampleLog.sentAt 0) = some ⟨oneKey, 0⟩ :=
  latest_of_last [⟨sampleProvider.keysFetch, noKeysReply⟩]
    ((WebReply.read_eq_ok_iff silenceFault).mp oneKeyReply_read) 0

/-- What a search for its key comes to is what becomes of the token. -/
theorem runs_validate_sample {moment : Moment} {cache cache' : KeyCache} {log : WebLog}
    {found : Except ProviderFault PublicKey}
    (h : Runs (sampleProvider.findKey "k") moment cache log found cache') :
    Runs (sampleProvider.validate sampleToken) moment cache log
      (found >>= sampleProvider.judge moment sampleParts ⟨.rs256, some "k"⟩ sampleToken)
      cache' := by
  rw [runs_validate_cases, sample_apart]
  exact ⟨found, h, rfl⟩

theorem course_sample : sampleProvider.Course 0 (sampleLog.sentAt 0) (some ⟨oneKey, 0⟩) := by
  have hsearch : sampleProvider.Search "k" ⟨0, silenceFault⟩ none sampleLog
      (.ok (.rsa ⟨[1], [3]⟩)) := by
    rw [← lookIn_oneKey]
    exact .refetched oneKeyReply rfl noKeysReply_read rfl
  have hcache : some ⟨oneKey, 0⟩ =
      (sampleProvider.latest (sampleLog.sentAt 0)).or none := by
    rw [latest_sampleLog, Option.some_or]
  have hrun := runs_validate_sample (runs_findKey_iff.mpr ⟨hsearch, hcache⟩)
  exact Course.start.call (.validate sampleToken) le_rfl hrun

/-- Ten minutes later, to the millisecond, the keys are asked for again; the request fails, and so
does the call, but the keys stay at hand with their age. -/
theorem keys_expire_to_the_millisecond :
    ∃ found, sampleProvider.Sparing "k" ⟨600000, silenceFault⟩ (sampleLog.sentAt 0)
        (some ⟨oneKey, 0⟩) [⟨sampleProvider.keysFetch, .response 500 ""⟩] found
        (some ⟨oneKey, 0⟩) ∧
      found >>= sampleProvider.judge ⟨600000, silenceFault⟩ sampleParts ⟨.rs256, some "k"⟩
        sampleToken = .error (.fetch { status := some 500 }) := by
  have hsearch : sampleProvider.Search "k" ⟨600000, silenceFault⟩ (some ⟨oneKey, 0⟩)
      [⟨sampleProvider.keysFetch, .response 500 ""⟩] (.error (.fetch { status := some 500 })) :=
    .failed (by decide +kernel) rfl
  have hrun := runs_validate_sample (runs_findKey_iff.mpr ⟨hsearch, rfl⟩)
  obtain ⟨-, -, -, hsparing⟩ := keys_expire sampleProvider sampleToken 0 ⟨600000, silenceFault⟩ _ _
    _ _ _ course_sample (by decide) hrun
  obtain ⟨found, hr, hsparing⟩ := hsparing _ _ _ sample_apart rfl
  exact ⟨found, hsparing, hr.symm⟩

end OpenId

end Gatehouse.Provider
