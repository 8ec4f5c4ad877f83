import Gatehouse.Provider.OpenId

/-!
# Runs of lookups

What a lookup may come to when its requests are answered in any way at all. A run of a dialogue
leaves a log of the questions and their answers (`Dialogue.Runs`); a run of a lookup starts and ends
with keys at hand (`Runs`). Runs of steps in a row are runs of the steps with their logs in a row
(`runs_bind`), and keys at hand are always keys that the provider has served (`Reaches.vetted`).
-/

namespace Gatehouse

namespace Dialogue

variable {Q : Type} {A : Q → Type} {α β : Type}

/-- A dialogue may end with a result, and its questions be answered on the way as in a log. -/
inductive Runs : Dialogue Q A α → List ((q : Q) × A q) → α → Prop
  | done (a : α) : Runs (.done a) [] a
  | ask {q : Q} {next : A q → Dialogue Q A α} {log : List ((q : Q) × A q)} {a : α} (x : A q)
      (h : Runs (next x) log a) : Runs (.ask q next) (⟨q, x⟩ :: log) a

theorem runs_done {a b : α} {log : List ((q : Q) × A q)} :
    Runs (.done a : Dialogue Q A α) log b ↔ log = [] ∧ b = a := by
  constructor
  · rintro ⟨⟩
    exact ⟨rfl, rfl⟩
  · rintro ⟨rfl, rfl⟩
    exact .done b

/-- Going on with the result of a dialogue is running the one after the other. -/
theorem runs_bind {d : Dialogue Q A α} {f : α → Dialogue Q A β} {log : List ((q : Q) × A q)}
    {b : β} :
    Runs (d.bind f) log b ↔
      ∃ a first last, log = first ++ last ∧ Runs d first a ∧ Runs (f a) last b := by
  induction d generalizing log with
  | done a =>
    constructor
    · intro h
      exact ⟨a, [], log, rfl, .done a, h⟩
    · rintro ⟨_, _, last, rfl, ⟨⟩, h⟩
      exact h
  | ask q next ih =>
    constructor
    · rintro (_ | ⟨x, h⟩)
      obtain ⟨a, first, last, rfl, hd, hf⟩ := (ih x).mp h
      exact ⟨a, ⟨q, x⟩ :: first, last, rfl, .ask x hd, hf⟩
    · rintro ⟨a, _, last, rfl, _ | ⟨x, hd⟩, hf⟩
      exact .ask x ((ih x).mpr ⟨a, _, last, rfl, hd, hf⟩)

/-- Whoever answers the questions, and from whatever state: what it comes to is the end of a run, in
which every question has an answer of theirs. -/
theorem runs_conduct {σ : Type} (answer : (q : Q) → σ → A q × σ) (d : Dialogue Q A α) (s : σ) :
    ∃ log, Runs d log (d.conduct answer s).1 ∧ ∀ e ∈ log, ∃ s, e.2 = (answer e.1 s).1 := by
  induction d generalizing s with
  | done a => exact ⟨[], .done a, List.forall_mem_nil _⟩
  | ask q next ih =>
    obtain ⟨log, hrun, hlog⟩ := ih (answer q s).1 (answer q s).2
    exact ⟨⟨q, (answer q s).1⟩ :: log, .ask _ hrun, List.forall_mem_cons.mpr ⟨⟨s, rfl⟩, hlog⟩⟩

end Dialogue

namespace Provider

open Json Token

/-- Requests to the provider with what became of them, in order. -/
abbrev WebLog := List ((_ : Fetch) × WebReply)

/-- A lookup may come to a result with keys at hand, its requests answered as in a log. -/
def Runs {α : Type} (x : Lookup α) (moment : Moment) (cache : KeyCache) (log : WebLog)
    (r : Except ProviderFault α) (cache' : KeyCache) : Prop :=
  Dialogue.Runs (x moment cache : Web (Except ProviderFault α × KeyCache)) log (r, cache')

variable {α β : Type} {moment : Moment} {cache cache' : KeyCache} {log : WebLog}

/-! ## Steps -/

theorem runs_pure {a : α} {r : Except ProviderFault α} :
    Runs (pure a) moment cache log r cache' ↔ log = [] ∧ r = .ok a ∧ cache' = cache := by
  refine Dialogue.runs_done.trans ?_
  rw [Prod.mk.injEq]

theorem runs_throw {fault : ProviderFault} {r : Except ProviderFault α} :
    Runs (throw fault) moment cache log r cache' ↔
      log = [] ∧ r = .error fault ∧ cache' = cache := by
  refine Dialogue.runs_done.trans ?_
  rw [Prod.mk.injEq]

/-- A lookup goes on from the value and the keys that its first step leaves. -/
theorem runs_bind {x : Lookup α} {f : α → Lookup β} {r : Except ProviderFault β} :
    Runs (x >>= f) moment cache log r cache' ↔
      (∃ fault, r = .error fault ∧ Runs x moment cache log (.error fault) cache') ∨
        ∃ a between first last, log = first ++ last ∧
          Runs x moment cache first (.ok a) between ∧
          Runs (f a) moment between last r cache' := by
  have hbind : ((x >>= f) moment cache : Web (Except ProviderFault β × KeyCache)) =
      (x moment cache : Web (Except ProviderFault α × KeyCache)).bind fun s =>
        match s.1 with
        | .ok a => f a moment s.2
        | .error fault => .done (.error fault, s.2) := by
    change Dialogue.bind _ _ = _
    congr 1
    funext ⟨result, between⟩
    cases result with
    | ok a => rfl
    | error fault => rfl
  unfold Runs
  rw [hbind, Dialogue.runs_bind]
  constructor
  · rintro ⟨⟨result, between⟩, first, last, rfl, hx, hf⟩
    cases result with
    | ok a => exact Or.inr ⟨a, between, first, last, rfl, hx, hf⟩
    | error fault =>
      cases hf
      rw [List.append_nil]
      exact Or.inl ⟨fault, rfl, hx⟩
  · rintro (⟨fault, rfl, hx⟩ | ⟨a, between, first, last, rfl, hx, hf⟩)
    · exact ⟨(.error fault, cache'), log, [], (List.append_nil _).symm, hx, .done _⟩
    · exact ⟨(.ok a, between), first, last, rfl, hx, hf⟩

theorem runs_get_bind {f : KeyCache → Lookup β} {r : Except ProviderFault β} :
    Runs (get >>= f) moment cache log r cache' ↔ Runs (f cache) moment cache log r cache' := Iff.rfl

theorem runs_read_bind {f : Moment → Lookup β} {r : Except ProviderFault β} :
    Runs (read >>= f) moment cache log r cache' ↔ Runs (f moment) moment cache log r cache' :=
  Iff.rfl

theorem runs_set_bind {keys : KeyCache} {f : PUnit → Lookup β} {r : Except ProviderFault β} :
    Runs (set keys >>= f) moment cache log r cache' ↔ Runs (f ⟨⟩) moment keys log r cache' :=
  Iff.rfl

theorem runs_checked_bind {a : α} {f : α → Lookup β} {r : Except ProviderFault β} :
    Runs (OpenId.checked (.ok a) >>= f) moment cache log r cache' ↔
      Runs (f a) moment cache log r cache' := Iff.rfl

theorem runs_checked {x : Except TokenFault α} {r : Except ProviderFault α} :
    Runs (OpenId.checked x) moment cache log r cache' ↔
      log = [] ∧ r = x.mapError .rejected ∧ cache' = cache := by
  cases x with
  | ok a => exact runs_pure
  | error fault => exact runs_throw

/-! ## Documents -/

/-- A request was answered with a document. -/
def WebLog.Serves (log : WebLog) (f : Fetch) (dec : Decoder α) (a : α) : Prop :=
  ∃ status body, ⟨f, .response status body⟩ ∈ log ∧ status < 400 ∧ decode dec body = .ok a

theorem WebLog.Serves.append_left {f : Fetch} {dec : Decoder α} {a : α} (h : log.Serves f dec a)
    (before : WebLog) : WebLog.Serves (before ++ log) f dec a := by
  obtain ⟨status, body, hmem, hstatus, hbody⟩ := h
  exact ⟨status, body, List.mem_append_right before hmem, hstatus, hbody⟩

theorem WebLog.Serves.append_right {f : Fetch} {dec : Decoder α} {a : α} (h : log.Serves f dec a)
    (after : WebLog) : WebLog.Serves (log ++ after) f dec a := by
  obtain ⟨status, body, hmem, hstatus, hbody⟩ := h
  exact ⟨status, body, List.mem_append_left after hmem, hstatus, hbody⟩

/-- A document is read from a response that is none of refusal and holds it. -/
theorem read_ok {silence : ProviderFault} {dec : Decoder α} {reply : WebReply} {a : α}
    (h : reply.read silence dec = .ok a) :
    ∃ status body, reply = .response status body ∧ status < 400 ∧ decode dec body = .ok a := by
  unfold WebReply.read at h
  split at h
  · cases h
  · cases h
  · next status body =>
    split at h
    · cases h
    · next hstatus =>
      cases hbody : decode dec body with
      | error fault =>
        rw [hbody] at h
        cases h
      | ok b =>
        rw [hbody] at h
        cases h
        exact ⟨status, body, rfl, Nat.lt_of_not_le hstatus, hbody⟩

/-- A request that can be written down is made, and its reply read; any other one fails without
being made. The keys at hand stay as they are. -/
theorem runs_document_iff {f : Fetch} {dec : Decoder α} {r : Except ProviderFault α} :
    Runs (document f dec) moment cache log r cache' ↔
      cache' = cache ∧
        if f.isWritable then ∃ reply, log = [⟨f, reply⟩] ∧ r = reply.read moment.silence dec
        else log = [] ∧ r = .error (.fetch {}) := by
  have hfetch : Runs (document f dec) moment cache log r cache' ↔
      Dialogue.Runs ((fetch moment.silence f dec : Web (Except ProviderFault α)).bind
        fun r => .done (r, cache)) log (r, cache') := Iff.rfl
  rw [hfetch]
  unfold fetch
  cases f.isWritable with
  | false =>
    simp only [Bool.false_eq_true, ↓reduceIte, Dialogue.done_bind, Dialogue.runs_done,
      Prod.mk.injEq]
    constructor
    · rintro ⟨hlog, hr, hcache⟩
      exact ⟨hcache, hlog, hr⟩
    · rintro ⟨hcache, hlog, hr⟩
      exact ⟨hlog, hr, hcache⟩
  | true =>
    simp only [↓reduceIte, Dialogue.ask_bind, Dialogue.done_bind]
    constructor
    · rintro (_ | ⟨reply, hreply⟩)
      obtain ⟨rfl, hend⟩ := Dialogue.runs_done.mp hreply
      cases hend
      exact ⟨rfl, reply, rfl, rfl⟩
    · rintro ⟨rfl, reply, rfl, rfl⟩
      apply Dialogue.Runs.ask
      exact .done _

/-! ## Keys -/

/-- The keys in a reply, if there are any. -/
def WebReply.keys? (reply : WebReply) : Option KeySet :=
  (reply.read silenceFault KeySet.decoder).toOption

/-- What is made of a response that does not come makes no difference to the keys in a reply. -/
theorem WebReply.read_eq_ok_iff {reply : WebReply} {keys : KeySet} (silence : ProviderFault) :
    reply.read silence KeySet.decoder = .ok keys ↔ reply.keys? = some keys := by
  have hread : (reply.read silence KeySet.decoder).toOption = reply.keys? := by
    cases reply with
    | response status body => rfl
    | silence => rfl
    | unreachable => rfl
  rw [← hread]
  cases reply.read silence KeySet.decoder with
  | ok found => simp [Except.toOption]
  | error fault => simp [Except.toOption]

/-- A request to the provider, with the time at which it was made and what became of it. -/
structure Sent where
  time : Nat
  fetch : Fetch
  reply : WebReply

/-- Requests that were all made at one time. -/
def WebLog.sentAt (log : WebLog) (time : Nat) : List Sent := log.map fun e => ⟨time, e.1, e.2⟩

theorem WebLog.sentAt_append (first last : WebLog) (time : Nat) :
    WebLog.sentAt (first ++ last) time = first.sentAt time ++ last.sentAt time :=
  List.map_append

namespace OpenId

/-- The request for the keys of the provider. -/
def keysFetch (p : OpenId) : Fetch := ⟨p.discovery.keysUrl, none⟩

/-- The keys that a request was answered with, if it is one for keys and succeeded. -/
def served? (p : OpenId) (s : Sent) : Option CachedKeys :=
  if s.fetch = p.keysFetch then s.reply.keys?.map (⟨·, s.time⟩) else none

/-- The keys of the last request for keys that succeeded. -/
def latest (p : OpenId) (sent : List Sent) : KeyCache := (sent.filterMap p.served?).getLast?

/-- The provider has served a set of keys at the address of its keys. -/
def Publishes (p : OpenId) (log : WebLog) (keys : KeySet) : Prop :=
  log.Serves ⟨p.discovery.keysUrl, none⟩ KeySet.decoder keys

/-- The keys at hand, if there are any, are keys that the provider has served. -/
def Vetted (p : OpenId) (log : WebLog) (cache : KeyCache) : Prop :=
  ∀ c, cache = some c → p.Publishes log c.keys

/-- A lookup never takes up keys that the provider has not served. -/
def Keeps (p : OpenId) (x : Lookup α) : Prop :=
  ∀ {moment cache log r cache' history}, Runs x moment cache log r cache' →
    p.Vetted history cache → p.Vetted (history ++ log) cache'

/-- After a lookup, the keys at hand are those of its last request for keys that succeeded, and the
ones before it if there was no such request. -/
def Follows (p : OpenId) (x : Lookup α) : Prop :=
  ∀ {moment cache log r cache'}, Runs x moment cache log r cache' →
    cache' = (p.latest (log.sentAt moment.now)).or cache

variable {p : OpenId} {history : WebLog} {keys : KeySet}

theorem served?_keysFetch (time : Nat) (reply : WebReply) :
    p.served? ⟨time, p.keysFetch, reply⟩ = reply.keys?.map (⟨·, time⟩) := if_pos rfl

theorem latest_append (first last : List Sent) :
    p.latest (first ++ last) = (p.latest last).or (p.latest first) := by
  unfold latest
  rw [List.filterMap_append, List.getLast?_append]

theorem latest_single (s : Sent) : p.latest [s] = p.served? s := by
  unfold latest
  cases h : p.served? s with
  | none => simp [h]
  | some c => simp [h]

theorem latest_of_last {reply : WebReply} {keys : KeySet} (log : WebLog)
    (hkeys : reply.keys? = some keys) (time : Nat) :
    p.latest (WebLog.sentAt (log ++ [⟨p.keysFetch, reply⟩]) time) = some ⟨keys, time⟩ := by
  have hlast : p.latest (WebLog.sentAt [⟨p.keysFetch, reply⟩] time) = some ⟨keys, time⟩ := by
    rw [WebLog.sentAt, List.map_singleton, latest_single, served?_keysFetch, hkeys]
    rfl
  rw [WebLog.sentAt_append, latest_append, hlast, Option.some_or]

theorem publishes_iff :
    p.Publishes log keys ↔ ∃ reply, ⟨p.keysFetch, reply⟩ ∈ log ∧ reply.keys? = some keys := by
  constructor
  · rintro ⟨status, body, hmem, hstatus, hbody⟩
    refine ⟨.response status body, hmem, (WebReply.read_eq_ok_iff silenceFault).mp ?_⟩
    simp [WebReply.read, Nat.not_le.mpr hstatus, hbody]
  · rintro ⟨reply, hmem, hkeys⟩
    obtain ⟨status, body, rfl, hstatus, hbody⟩ :=
      read_ok ((WebReply.read_eq_ok_iff silenceFault).mpr hkeys)
    exact ⟨status, body, hmem, hstatus, hbody⟩

/-- The last keys that were served were published. -/
theorem publishes_of_latest {time : Nat} {c : CachedKeys}
    (h : p.latest (log.sentAt time) = some c) : p.Publishes log c.keys := by
  have hmem := List.mem_of_getLast? h
  obtain ⟨s, hs, hserved⟩ := List.mem_filterMap.mp hmem
  obtain ⟨⟨f, reply⟩, he, rfl⟩ := List.mem_map.mp hs
  unfold served? at hserved
  split at hserved
  · next hfetch =>
    dsimp only at hfetch
    subst hfetch
    obtain ⟨keys, hkeys, rfl⟩ := Option.map_eq_some_iff.mp hserved
    exact publishes_iff.mpr ⟨reply, he, hkeys⟩
  · cases hserved

theorem keeps_of_follows {x : Lookup α} (h : p.Follows x) : p.Keeps x := by
  intro moment cache log r cache' history hx hcache c hc
  rw [h hx] at hc
  rcases Option.or_eq_some_iff.mp hc with hlatest | ⟨-, hold⟩
  · exact (publishes_of_latest hlatest).append_left history
  · exact (hcache c hold).append_right log

theorem follows_of_silent {x : Lookup α}
    (h : ∀ {moment cache log r cache'}, Runs x moment cache log r cache' →
      log = [] ∧ cache' = cache) : p.Follows x := by
  intro moment cache log r cache' hx
  obtain ⟨rfl, rfl⟩ := h hx
  rfl

theorem follows_bind {x : Lookup α} {f : α → Lookup β} (hx : p.Follows x)
    (hf : ∀ a, p.Follows (f a)) : p.Follows (x >>= f) := by
  intro moment cache log r cache' h
  rcases runs_bind.mp h with ⟨fault, -, h⟩ | ⟨a, between, first, last, rfl, hfirst, hlast⟩
  · exact hx h
  · rw [hf a hlast, hx hfirst, WebLog.sentAt_append, latest_append, Option.or_assoc]

theorem follows_pure (a : α) : p.Follows (pure a : Lookup α) :=
  follows_of_silent fun h => ⟨(runs_pure.mp h).1, (runs_pure.mp h).2.2⟩

theorem follows_throw (fault : ProviderFault) : p.Follows (throw fault : Lookup α) :=
  follows_of_silent fun h => ⟨(runs_throw.mp h).1, (runs_throw.mp h).2.2⟩

theorem follows_checked (x : Except TokenFault α) : p.Follows (checked x) :=
  follows_of_silent fun h => ⟨(runs_checked.mp h).1, (runs_checked.mp h).2.2⟩

theorem follows_document {f : Fetch} (hf : f ≠ p.keysFetch) (dec : Decoder α) :
    p.Follows (document f dec) := by
  intro moment cache log r cache' h
  obtain ⟨rfl, hlog⟩ := runs_document_iff.mp h
  have hnone : p.latest (log.sentAt moment.now) = none := by
    split at hlog
    · obtain ⟨reply, rfl, -⟩ := hlog
      exact (latest_single _).trans (if_neg hf)
    · obtain ⟨rfl, -⟩ := hlog
      rfl
  rw [hnone, Option.none_or]

theorem follows_get_bind {f : KeyCache → Lookup β} (h : ∀ c, p.Follows (f c)) :
    p.Follows (get >>= f) := fun hr => h _ (runs_get_bind.mp hr)

theorem follows_read_bind {f : Moment → Lookup β} (h : ∀ m, p.Follows (f m)) :
    p.Follows (read >>= f) := fun hr => h _ (runs_read_bind.mp hr)

/-- The keys at hand after a request for keys: those in its reply, or the ones before it. -/
theorem latest_of_reply (reply : WebReply) (silence : ProviderFault) (time : Nat)
    (cache : KeyCache) :
    (p.latest (WebLog.sentAt [⟨p.keysFetch, reply⟩] time)).or cache =
      match reply.read silence KeySet.decoder with
      | .ok keys => some ⟨keys, time⟩
      | .error _ => cache := by
  have hlatest : p.latest (WebLog.sentAt [⟨p.keysFetch, reply⟩] time) =
      reply.keys?.map (⟨·, time⟩) := (latest_single _).trans (served?_keysFetch ..)
  rw [hlatest]
  cases hread : reply.read silence KeySet.decoder with
  | ok keys =>
    rw [(WebReply.read_eq_ok_iff silence).mp hread]
    rfl
  | error fault =>
    have hnone : reply.keys? = none := by
      rw [Option.eq_none_iff_forall_ne_some]
      intro keys hkeys
      rw [(WebReply.read_eq_ok_iff silence).mpr hkeys] at hread
      cases hread
    rw [hnone]
    rfl

/-- Keys are fetched with one request, and are at hand from then on if it succeeds. -/
theorem runs_refreshKeys_iff {r : Except ProviderFault KeySet} :
    Runs p.refreshKeys moment cache log r cache' ↔
      ∃ reply, log = [⟨p.keysFetch, reply⟩] ∧ r = reply.read moment.silence KeySet.decoder ∧
        cache' = (p.latest (log.sentAt moment.now)).or cache := by
  unfold refreshKeys
  constructor
  · intro h
    rcases runs_bind.mp h with
      ⟨fault, rfl, hfetch⟩ | ⟨keys, between, first, last, rfl, hfirst, hlast⟩
    · obtain ⟨rfl, reply, rfl, hread⟩ := runs_document_iff.mp hfetch
      refine ⟨reply, rfl, hread, ?_⟩
      refine Eq.trans ?_ (latest_of_reply reply moment.silence _ _).symm
      rw [← hread]
    · obtain ⟨rfl, reply, rfl, hread⟩ := runs_document_iff.mp hfirst
      rw [runs_read_bind, runs_set_bind, runs_pure] at hlast
      obtain ⟨rfl, rfl, rfl⟩ := hlast
      rw [List.append_nil]
      refine ⟨reply, rfl, hread, ?_⟩
      refine Eq.trans ?_ (latest_of_reply reply moment.silence _ _).symm
      rw [← hread]
  · rintro ⟨reply, rfl, rfl, rfl⟩
    rw [latest_of_reply reply moment.silence]
    cases hread : reply.read moment.silence KeySet.decoder with
    | error fault =>
      exact runs_bind.mpr (Or.inl ⟨fault, rfl, runs_document_iff.mpr ⟨rfl, reply, rfl, hread.symm⟩⟩)
    | ok keys =>
      refine runs_bind.mpr (Or.inr ⟨keys, cache, _, [], (List.append_nil _).symm,
        runs_document_iff.mpr ⟨rfl, reply, rfl, hread.symm⟩, ?_⟩)
      rw [runs_read_bind, runs_set_bind, runs_pure]
      exact ⟨rfl, rfl, rfl⟩

theorem follows_refreshKeys : p.Follows p.refreshKeys := by
  intro moment cache log r cache' h
  obtain ⟨reply, -, -, hcache⟩ := runs_refreshKeys_iff.mp h
  exact hcache

/-- The keys that a lookup may use: fresh ones at hand, and those that it is served. -/
def Offers (p : OpenId) (moment : Moment) (cache : KeyCache) (log : WebLog) (keys : KeySet) :
    Prop :=
  cache.fresh? p.keysTtl moment.now = some keys ∨ p.Publishes log keys

/-- Keys that a lookup may use have been served to it or before it. -/
theorem Offers.publishes (h : p.Offers moment cache log keys) (hcache : p.Vetted history cache) :
    p.Publishes (history ++ log) keys := by
  rcases h with h | h
  · unfold KeyCache.fresh? at h
    obtain ⟨c, hc, rfl⟩ := Option.map_eq_some_iff.mp h
    exact (hcache c (Option.filter_eq_some_iff.mp hc).1).append_right log
  · exact h.append_left history

/-- Keys that are fetched were published. -/
theorem publishes_of_refreshKeys (h : Runs p.refreshKeys moment cache log (.ok keys) cache') :
    p.Publishes log keys := by
  obtain ⟨reply, rfl, hread, -⟩ := runs_refreshKeys_iff.mp h
  exact publishes_iff.mpr
    ⟨reply, List.mem_cons_self, (WebReply.read_eq_ok_iff moment.silence).mp hread.symm⟩

/-- Keys at hand that are fresh are current without any request; otherwise keys are fetched. -/
theorem runs_currentKeys_iff {r : Except ProviderFault KeySet} :
    Runs p.currentKeys moment cache log r cache' ↔
      match cache.fresh? p.keysTtl moment.now with
      | some keys => log = [] ∧ r = .ok keys ∧ cache' = cache
      | none => Runs p.refreshKeys moment cache log r cache' := by
  unfold currentKeys
  rw [runs_get_bind, runs_read_bind]
  cases cache.fresh? p.keysTtl moment.now with
  | some keys => exact runs_pure
  | none => exact Iff.rfl

theorem runs_currentKeys (h : Runs p.currentKeys moment cache log (.ok keys) cache') :
    p.Offers moment cache log keys := by
  rw [runs_currentKeys_iff] at h
  split at h
  · next hfresh =>
    obtain ⟨rfl, ⟨⟩, rfl⟩ := h
    exact Or.inl hfresh
  · exact Or.inr (publishes_of_refreshKeys h)

theorem follows_currentKeys : p.Follows p.currentKeys := by
  refine follows_get_bind fun c => follows_read_bind fun m => ?_
  split
  · exact follows_pure _
  · exact follows_refreshKeys

/-- A key that is found is that of the first entry with the id in a set that may be used. -/
theorem runs_findKey {id : String} {key : PublicKey}
    (h : Runs (p.findKey id) moment cache log (.ok key) cache') :
    ∃ keys, p.Offers moment cache log keys ∧ keys.publicKey? id = some key := by
  unfold findKey at h
  rcases runs_bind.mp h with ⟨fault, ⟨⟩, -⟩ | ⟨keys, between, first, last, rfl, hfirst, hlast⟩
  have hoffers := runs_currentKeys hfirst
  split at hlast
  · next key' hkey =>
    obtain ⟨rfl, ⟨⟩, rfl⟩ := runs_pure.mp hlast
    rw [List.append_nil]
    exact ⟨keys, hoffers, hkey⟩
  · -- The keys at hand lack the id, so they are fetched again and looked through once more.
    rcases runs_bind.mp hlast with
      ⟨fault, ⟨⟩, -⟩ | ⟨fetched, later, middle, rest, rfl, hmiddle, hrest⟩
    have hkeys := publishes_of_refreshKeys hmiddle
    split at hrest
    · next key' hkey =>
      obtain ⟨rfl, ⟨⟩, rfl⟩ := runs_pure.mp hrest
      rw [List.append_nil]
      exact ⟨fetched, Or.inr (hkeys.append_left first), hkey⟩
    · obtain ⟨-, ⟨⟩, -⟩ := runs_throw.mp hrest

theorem follows_findKey (id : String) : p.Follows (p.findKey id) := by
  refine follows_bind follows_currentKeys fun keys => ?_
  split
  · exact follows_pure _
  · refine follows_bind follows_refreshKeys fun keys => ?_
    split
    · exact follows_pure _
    · exact follows_throw _

theorem follows_validate (token : String) : p.Follows (p.validate token) := by
  refine follows_bind (follows_checked _) fun (parts, header) => ?_
  dsimp only
  cases header.keyId with
  | none => exact follows_throw _
  | some id =>
    exact follows_bind (follows_findKey id) fun key => follows_read_bind fun m =>
      follows_bind (follows_checked _) fun claims => follows_pure _

/-- Keys at hand are those fetched last, whatever is looked up. -/
theorem follows_lookup (c : ProviderCall) : p.Follows (p.lookup c) := by
  cases c with
  | validate token => exact follows_validate token
  | claims validated =>
    refine follows_document (fun hfetch => ?_) _
    cases congrArg Fetch.bearer hfetch

/-- The requests made so far and the keys at hand after lookups in a row, starting without keys. -/
inductive Reaches (p : OpenId) : WebLog → KeyCache → Prop
  | start : Reaches p [] none
  | call {history log : WebLog} {cache cache' : KeyCache} {moment : Moment} (c : ProviderCall)
      {r : c.Answer} (before : Reaches p history cache)
      (run : Runs (p.lookup c) moment cache log r cache') : Reaches p (history ++ log) cache'

/-- Keys at hand are always keys that the provider has served. -/
theorem Reaches.vetted (h : p.Reaches history cache) : p.Vetted history cache := by
  induction h with
  | start => rintro c ⟨⟩
  | call c before run ih => exact keeps_of_follows (follows_lookup c) run ih

end OpenId

end Provider

end Gatehouse
