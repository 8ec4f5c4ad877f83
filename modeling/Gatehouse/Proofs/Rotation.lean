import Gatehouse.Proofs.JsonText
import Gatehouse.Proofs.KeyCache

/-!
# Tokens are accepted while keys rotate

A token that was issued in order is accepted, whatever was looked up before
(`accepted_across_rotation`), provided that the provider publishes its key now and that no id ever
stands for two keys. Nothing of it is left to chance: its header is read (`ofPart_of_names`) and so
is its payload (`exists_claimsOf`), and a search finds the key even if the keys at hand are those of
before the rotation (`Search.eq_ok`).
-/

namespace Gatehouse.Token

open Json

/-! ## Headers that can be read -/

/-- The members of a header that names an algorithm and a key. As the format has it, what has a
meaning in headers is of the shape that is laid down for it and everything else is text; a header
that is not like this cannot be read at all. -/
structure NamesKey (ms : Members) (algorithm : Algorithm) (id : String) : Prop where
  legible : ∀ m ∈ ms, ∃ name, m.1 = .ok name
  once : ms.Pairwise (Apart Header.fields)
  algorithm : ∃ d, (.ok "alg", d) ∈ ms ∧ d.Says algorithm.name
  id : ∃ d, (.ok "kid", d) ∈ ms ∧ d.Says id
  known : ∀ f ∈ Header.fields, ∀ d, (.ok f.name, d) ∈ ms → f.check d = .ok ()
  others : ∀ name d, (.ok name, d) ∈ ms → ¬ Json.IsField Header.fields name → ∃ s, d.Says s

theorem EncodesObject.skip {part : List Char} {ms : Members} (h : EncodesObject part ms) :
    ∀ m ∈ ms, m.2.skip = .ok () := by
  obtain ⟨bytes, -, rest, hread, -⟩ := h
  exact skip_of_read hread

theorem ofName?_name (a : Algorithm) : Algorithm.ofName? a.name = some a := by
  cases a <;> decide

theorem checkOthers_eq_ok {ms : Members} (hlegible : ∀ m ∈ ms, ∃ name, m.1 = .ok name)
    (hothers : ∀ name d, (.ok name, d) ∈ ms → ¬ Json.IsField Header.fields name → ∃ s, d.Says s) :
    Header.checkOthers ms = .ok () := by
  induction ms with
  | nil => rfl
  | cons m ms ih =>
    obtain ⟨key, d⟩ := m
    obtain ⟨name, rfl⟩ : ∃ name, key = .ok name := hlegible (key, d) List.mem_cons_self
    have hrest : Header.checkOthers ms = .ok () :=
      ih (fun m hm => hlegible m (List.mem_cons_of_mem _ hm))
        (fun name d hd => hothers name d (List.mem_cons_of_mem _ hd))
    have hfield : Header.fields.any (·.name == name) = true ↔ Json.IsField Header.fields name := by
      simp [Json.IsField]
    unfold Header.checkOthers
    by_cases hname : Json.IsField Header.fields name
    · rw [hfield.mpr hname]
      exact hrest
    · obtain ⟨s, hs⟩ := hothers name d List.mem_cons_self hname
      rw [Bool.eq_false_iff.mpr (mt hfield.mp hname), text_eq_ok.mpr hs]
      exact hrest

theorem decoder_of_names {ms : Members} {algorithm : Algorithm} {id : String}
    (h : NamesKey ms algorithm id) (hskip : ∀ m ∈ ms, m.2.skip = .ok ()) :
    Header.decoder (.object ms .closed) = .ok ⟨algorithm, some id⟩ := by
  obtain ⟨alg, halg, hnames⟩ := h.algorithm
  obtain ⟨kid, hkid, ending, rfl⟩ := h.id
  have hfits : Fits Header.fields ms := by
    refine ⟨h.legible, h.known, fun name d hd _ => hskip _ hd, h.once, ?_⟩
    intro f hf hrequired
    have hname : f.name = "alg" := by
      revert f
      simp [Header.fields, Field.required, Field.optional]
    exact ⟨alg, hname ▸ halg⟩
  obtain ⟨p, hp, hlookup⟩ := record_of_fits hfits true
  have halgorithm : p.required "alg" (oneOf Algorithm.ofName?) = .ok algorithm := by
    obtain ⟨ending, rfl⟩ := hnames
    unfold Present.required
    rw [(hlookup "alg" _ ⟨.required "alg" (oneOf Algorithm.ofName?), by simp [Header.fields],
      rfl⟩).mpr halg]
    simp only [oneOf, ofName?_name]
  have hid : p.optional "kid" text = .ok (some id) := by
    unfold Present.optional
    rw [(hlookup "kid" _ ⟨.optional "kid" text, by simp [Header.fields], rfl⟩).mpr hkid]
    rfl
  simp only [Header.decoder, checkOthers_eq_ok h.legible h.others, hp, halgorithm, hid, bind,
    Except.bind]
  rfl

/-- The header of a token is read when its members name an algorithm and a key. -/
theorem ofPart_of_names {part : List Char} {ms : Members} {algorithm : Algorithm} {id : String}
    (hencodes : EncodesObject part ms) (h : NamesKey ms algorithm id) :
    Header.ofPart part = .ok ⟨algorithm, some id⟩ := by
  have hdecoder := decoder_of_names h hencodes.skip
  obtain ⟨bytes, hbytes, hspells⟩ := hencodes
  unfold Header.ofPart
  rw [hbytes]
  exact mapError_eq_ok.mpr (decodeBytes_eq_ok.mpr ⟨_, hspells, hdecoder⟩)

/-! ## Payloads that can be read -/

/-- A value can be read in the place of a claim of any type: it is a number of any size, or it can
be read in full. -/
def Claims.Keeps (d : Draft) : Prop :=
  (∃ n, d = .number n) ∨ d.keep Claims.claimDepth = .ok ()

/-- There are no other values in a value. -/
def Claims.IsFlat : Draft → Prop
  | .array (_ :: _) _ | .object (_ :: _) _ => False
  | _ => True

/-- The members of a payload that says whose a token is, until when it is good and who issued it.
Its start and its audience, if any, are whatever can be read in their place, of any type. -/
structure Vouches (ms : Members) (subject : String) (expiry : Nat) (issuer : String) : Prop where
  legible : ∀ m ∈ ms, ∃ name, m.1 = .ok name
  once : ms.Pairwise (Apart Claims.fields)
  subject : ∃ d, (.ok "sub", d) ∈ ms ∧ d.Says subject
  expiry : ∃ d, (.ok "exp", d) ∈ ms ∧ d.Counts expiry
  issuer : ∃ d, (.ok "iss", d) ∈ ms ∧ ∃ names, d.Tells names ∧ issuer ∈ names
  start : ∀ d, (.ok "nbf", d) ∈ ms → Claims.IsFlat d ∧ Claims.Keeps d
  audience : ∀ d, (.ok "aud", d) ∈ ms → Claims.Keeps d

theorem keepItems_says {ds : List Draft} {names : List String}
    (h : List.Forall₂ Draft.Says ds names) (depth : Nat) : keepItems depth ds = .ok () := by
  induction h with
  | nil => rfl
  | cons hd _ ih =>
    obtain ⟨ending, rfl⟩ := hd
    rw [keepItems, ih]
    rfl

theorem keep_of_tells {d : Draft} {names : List String} (h : d.Tells names) :
    d.keep Claims.claimDepth = .ok () := by
  rcases h with ⟨s, -, ending, rfl⟩ | ⟨ds, rfl, hds⟩
  · rfl
  · rw [Claims.claimDepth, Draft.keep, keepItems_says hds]
    rfl

theorem Claims.keeps_iff {d : Draft} (hnumber : ∀ n, d ≠ .number n) :
    Claims.Keeps d ↔ d.keep Claims.claimDepth = .ok () := by
  apply or_iff_right
  rintro ⟨n, hn⟩
  exact hnumber n hn

/-- What does not fail after a check succeeds with it. -/
theorem exists_checked_iff {α : Type} {check : Except ReadFault Unit}
    {rest : Unit → Except ReadFault α} (hrest : ∃ a, rest () = .ok a) :
    (∃ a, (check >>= rest) = .ok a) ↔ check = .ok () := by
  cases check with
  | error fault => exact iff_of_false nofun nofun
  | ok u => exact iff_of_true hrest rfl

theorem exists_texts?_iff {d : Draft} : (∃ o, Claims.texts? d = .ok o) ↔ Claims.Keeps d := by
  unfold Claims.texts?
  split
  · next n => exact iff_of_true ⟨none, rfl⟩ (Or.inl ⟨n, rfl⟩)
  · next hnumber =>
    rw [Claims.keeps_iff hnumber]
    apply exists_checked_iff
    split
    · exact ⟨_, rfl⟩
    · exact ⟨_, rfl⟩

theorem exists_time?_iff {d : Draft} :
    (∃ o, Claims.time? d = .ok o) ↔ Claims.IsFlat d ∧ Claims.Keeps d := by
  unfold Claims.time?
  split
  · exact iff_of_false nofun And.left
  · exact iff_of_false nofun And.left
  · next n => exact iff_of_true ⟨_, rfl⟩ ⟨trivial, Or.inl ⟨n, rfl⟩⟩
  · next harray hobject hnumber =>
    have hflat : Claims.IsFlat d := by
      unfold Claims.IsFlat
      split
      · next v vs ending => exact harray v vs ending rfl
      · next m ms ending => exact hobject m ms ending rfl
      · trivial
    rw [and_iff_right hflat, Claims.keeps_iff hnumber]
    exact exists_checked_iff ⟨none, rfl⟩

theorem exists_claims_of_fits {ms : Members} (h : Fits Claims.fields ms) :
    ∃ c, Claims.decoder (.object ms .closed) = .ok c := by
  obtain ⟨p, hp, hlookup⟩ := record_of_fits h true
  have hrequired : ∀ {α : Type} {name : String} {dec : Decoder α},
      .required name dec ∈ Claims.fields → ∃ a, p.required name dec = .ok a :=
    fun hf => h.exists_required hlookup hf
  have hdefaulted : ∀ {α : Type} {name : String} {dec : Decoder (Option α)},
      .defaulted name dec ∈ Claims.fields → ∃ o, p.withDefault name dec none = .ok o :=
    fun hf => h.exists_withDefault hlookup hf none
  obtain ⟨subject, hsubject⟩ := hrequired (.head _)
  obtain ⟨expiry, hexpiry⟩ := hrequired (.tail _ (.head _))
  obtain ⟨start, hstart⟩ := hdefaulted (.tail _ (.tail _ (.head _)))
  obtain ⟨issuers, hissuers⟩ := hdefaulted (.tail _ (.tail _ (.tail _ (.head _))))
  obtain ⟨audiences, haudiences⟩ := hdefaulted (.tail _ (.tail _ (.tail _ (.tail _ (.head _)))))
  refine ⟨⟨subject, expiry, start, issuers, audiences⟩, ?_⟩
  simp only [Claims.decoder, hp, hsubject, hexpiry, hstart, hissuers, haudiences, bind, Except.bind]
  rfl

namespace Vouches

variable {ms : Members} {subject issuer : String} {expiry : Nat}

/-- The one member of the name of a claim is as it has to be. -/
theorem unique (h : Vouches ms subject expiry issuer) {name : String}
    (hname : Json.IsField Claims.fields name) {P : Draft → Prop}
    (hgiven : ∃ d, (.ok name, d) ∈ ms ∧ P d) : ∀ d, (.ok name, d) ∈ ms → P d := by
  intro d hd
  obtain ⟨d', hd', hP⟩ := hgiven
  rwa [((hasMember_iff h.once hname).mpr hd').2 d hd]

theorem fits (h : Vouches ms subject expiry issuer) (hbound : expiry < ValidatedToken.expiryBound)
    (hskip : ∀ m ∈ ms, m.2.skip = .ok ()) : Fits Claims.fields ms := by
  have hsub : Json.IsField Claims.fields "sub" :=
    ⟨.required "sub" text, by simp [Claims.fields], rfl⟩
  have hexp : Json.IsField Claims.fields "exp" :=
    ⟨.required "exp" (natBelow ValidatedToken.expiryBound), by simp [Claims.fields], rfl⟩
  have hiss : Json.IsField Claims.fields "iss" :=
    ⟨.defaulted "iss" Claims.texts?, by simp [Claims.fields], rfl⟩
  refine ⟨h.legible, ?_, fun name d hd _ => hskip _ hd, h.once, ?_⟩
  · simp only [Claims.fields, List.forall_mem_cons, Field.required, Field.defaulted, map_eq_ok,
      and_true]
    refine ⟨?_, ?_, ?_, ?_, ?_, List.forall_mem_nil _⟩
    · intro d hd
      exact ⟨subject, text_eq_ok.mpr (h.unique hsub h.subject d hd)⟩
    · intro d hd
      exact ⟨expiry, natBelow_eq_ok.mpr ⟨h.unique hexp h.expiry d hd, hbound⟩⟩
    · intro d hd
      exact exists_time?_iff.mpr (h.start d hd)
    · intro d hd
      obtain ⟨names, htells, -⟩ := h.unique hiss h.issuer d hd
      exact exists_texts?_iff.mpr (Or.inr (keep_of_tells htells))
    · intro d hd
      exact exists_texts?_iff.mpr (h.audience d hd)
  · simp only [Claims.fields, List.forall_mem_cons, Field.required, Field.defaulted]
    refine ⟨fun _ => h.subject.imp fun _ => And.left, fun _ => h.expiry.imp fun _ => And.left,
      ?_, ?_, ?_, List.forall_mem_nil _⟩
    all_goals
      intro hrequired
      cases hrequired

/-- The payload of a token is read as what its members say. -/
theorem exists_claimsOf {parts : Parts} (hencodes : EncodesObject parts.payload ms)
    (h : Vouches ms subject expiry issuer) (hbound : expiry < ValidatedToken.expiryBound) :
    ∃ c, claimsOf parts = .ok c ∧ c.Reads ms ∧ c.subject = subject ∧ c.expiry = expiry ∧
      ∃ names, c.issuers = some names ∧ issuer ∈ names := by
  obtain ⟨c, hc⟩ := exists_claims_of_fits (h.fits hbound hencodes.skip)
  obtain ⟨_, ⟨⟩, hreads⟩ := Claims.decoder_ok hc
  refine ⟨c, ?_, hreads, ?_, ?_, ?_⟩
  · obtain ⟨bytes, hbytes, hspells⟩ := hencodes
    unfold claimsOf
    rw [hbytes]
    exact mapError_eq_ok.mpr (decodeBytes_eq_ok.mpr ⟨_, hspells, hc⟩)
  · obtain ⟨d, hd, ending, rfl⟩ := hreads.subject
    obtain ⟨d', hd', ending', rfl⟩ := h.subject
    cases hd.2 _ hd'
    rfl
  · obtain ⟨d, hd, scale, rfl⟩ := hreads.expiry
    obtain ⟨d', hd', scale', rfl⟩ := h.expiry
    cases hd.2 _ hd'
    rfl
  · have hfield : Json.IsField Claims.fields "iss" :=
      ⟨.defaulted "iss" Claims.texts?, by simp [Claims.fields], rfl⟩
    obtain ⟨d, hd, names, htells, hissuer⟩ := h.issuer
    exact ⟨names, (hreads.issuers names).mpr ⟨d, (hasMember_iff h.once hfield).mpr hd, htells⟩,
      hissuer⟩

end Vouches

/-! ## Keys of a set -/

namespace KeySet

/-- A key is published under an id. -/
def Lists (s : KeySet) (id : String) (key : PublicKey) : Prop :=
  ∃ entry ∈ s.keys, entry.id = some id ∧ entry.material.publicKey? = some key

/-- No two keys share an id. -/
def Distinct (s : KeySet) : Prop :=
  s.keys.Pairwise fun entry other => ∀ id, entry.id = some id → other.id ≠ some id

variable {s : KeySet} {id : String} {key : PublicKey}

theorem lists_of_publicKey? (h : s.publicKey? id = some key) : s.Lists id key := by
  obtain ⟨entry, hentry, hkey⟩ := Option.bind_eq_some_iff.mp h
  have hid := List.find?_some hentry
  exact ⟨entry, List.mem_of_find?_eq_some hentry, by simpa using hid, hkey⟩

/-- Where no id is shared, the first key with an id is the one that is published under it. -/
theorem Distinct.publicKey? (h : s.Distinct) (hkey : s.Lists id key) :
    s.publicKey? id = some key := by
  obtain ⟨entry, hentry, hid, hkey⟩ := hkey
  obtain ⟨before, after, hkeys⟩ := List.append_of_mem hentry
  unfold Distinct at h
  rw [hkeys, List.pairwise_append] at h
  have hfirst : s.entry? id = some entry := by
    refine List.find?_eq_some_iff_append.mpr ⟨by simp [hid], before, after, hkeys, ?_⟩
    intro other hother
    have hother := h.2.2 other hother entry List.mem_cons_self id
    simpa using fun heq => hother heq hid
  rw [KeySet.publicKey?, hfirst]
  exact hkey

end KeySet

end Gatehouse.Token

namespace Gatehouse.Provider

open Json Token

/-- What a token was issued with: its parts, the members of its header and its payload, the
algorithm, the id and the key of its signature, its subject, and until when it is good. -/
structure Issuance where
  parts : Parts
  header : Members
  payload : Members
  algorithm : Algorithm
  id : String
  key : PublicKey
  subject : String
  expiry : UInt64

/-- A token was issued for a provider and is good at a second. Its signature is by an algorithm that
the key fits, since there is no other one that `IsSigned` would hold of. -/
structure Issuance.InOrder (i : Issuance) (p : OpenId) (token : String) (second : Nat) : Prop where
  apart : i.parts.Spell token
  header : EncodesObject i.parts.header i.header
  payload : EncodesObject i.parts.payload i.payload
  namesKey : NamesKey i.header i.algorithm i.id
  signed : IsSigned i.algorithm i.key i.parts
  vouches : Vouches i.payload i.subject i.expiry.toNat p.discovery.issuer
  unexpired : second ≤ i.expiry.toNat + p.leeway
  audience : p.audiences ≠ [] → ∃ d names, HasMember i.payload "aud" d ∧ d.Tells names ∧
    ∃ a ∈ p.audiences, a ∈ names

namespace OpenId

variable {p : OpenId} {moment : Moment} {cache : KeyCache}

/-- A search finds a key that is published whenever keys are asked for, unless the keys at hand have
another one. -/
theorem Search.eq_ok {id : String} {key : PublicKey} {log : WebLog}
    {found : Except ProviderFault PublicKey} (h : p.Search id moment cache log found)
    (hcurrent : ∀ reply, ⟨p.keysFetch, reply⟩ ∈ log →
      ∃ keys, reply.keys? = some keys ∧ keys.publicKey? id = some key)
    (hold : ∀ keys other, cache.fresh? p.keysTtl moment.now = some keys →
      keys.publicKey? id = some other → other = key) : found = .ok key := by
  cases h with
  | atHand fresh found => rw [hold _ _ fresh found]
  | renewed reply fresh missing =>
    obtain ⟨keys, hkeys, hkey⟩ := hcurrent reply List.mem_cons_self
    exact lookIn_eq_ok.mpr ⟨keys, (WebReply.read_eq_ok_iff _).mpr hkeys, hkey⟩
  | @failed reply fault stale fails =>
    obtain ⟨keys, hkeys, -⟩ := hcurrent reply List.mem_cons_self
    rw [(WebReply.read_eq_ok_iff _).mpr hkeys] at fails
    cases fails
  | @fetched reply keys other stale serves found =>
    obtain ⟨keys', hkeys, hkey⟩ := hcurrent reply List.mem_cons_self
    cases serves.symm.trans ((WebReply.read_eq_ok_iff _).mpr hkeys)
    cases found.symm.trans hkey
    rfl
  | @refetched first keys last stale serves missing =>
    -- the first request was served keys that have the key, so that there is no second one
    obtain ⟨keys', hkeys, hkey⟩ := hcurrent first List.mem_cons_self
    cases serves.symm.trans ((WebReply.read_eq_ok_iff _).mpr hkeys)
    cases missing.symm.trans hkey

/-- A token that is in order passes the check with its key. -/
theorem judge_of_inOrder {i : Issuance} {token : String}
    (h : i.InOrder p token (moment.now / 1000)) :
    p.judge moment i.parts ⟨i.algorithm, some i.id⟩ token i.key =
      .ok ⟨i.subject, i.expiry.toNat, token⟩ := by
  have hbound : i.expiry.toNat < ValidatedToken.expiryBound := i.expiry.toNat_lt
  obtain ⟨c, hclaims, hreads, hsubject, hexpiry, hissuer⟩ :=
    h.vouches.exists_claimsOf h.payload hbound
  have hmet : p.demands.MetBy (moment.now / 1000) c := by
    refine ⟨?_, hissuer, ?_⟩
    · rw [hexpiry]
      exact h.unexpired
    · intro hasked names hnames
      obtain ⟨d, names', hd, htells, hshared⟩ := h.audience hasked
      cases hnames.symm.trans ((hreads.audiences names').mpr ⟨d, hd, htells⟩)
      exact hshared
  refine judge_eq_ok.mpr ⟨c, check_iff.mpr ⟨h.signed, hclaims, hmet⟩, ?_⟩
  rw [hsubject, hexpiry]

/-- After any lookups, whatever keys are at hand and however old they are: a token in order is
accepted for what it says, as long as every request for keys is answered with a set that publishes
its key and shares no id, and no set that was served before has another key under its id. -/
theorem accepted_across_rotation {σ : Type} (p : OpenId) (server : (f : Fetch) → σ → WebReply × σ)
    (s : σ) (history : WebLog) (cache : KeyCache) (moment : Moment) (token : String) (i : Issuance)
    (past : p.Reaches history cache)
    (current : ∀ s, ∃ keys, (server p.keysFetch s).1.keys? = some keys ∧ keys.Distinct ∧
      keys.Lists i.id i.key)
    (steady : ∀ keys key, p.Publishes history keys → keys.Lists i.id key → key = i.key)
    (inOrder : i.InOrder p token (moment.now / 1000)) :
    ((p.validate token moment cache : Web (Except ProviderFault ValidatedToken × KeyCache)).conduct
      server s).1.1 = .ok ⟨i.subject, i.expiry.toNat, token⟩ := by
  obtain ⟨log, hrun, hserver⟩ := Dialogue.runs_conduct server
    (p.validate token moment cache : Web (Except ProviderFault ValidatedToken × KeyCache)) s
  have hparts : takeApart token = .ok (i.parts, ⟨i.algorithm, some i.id⟩) :=
    takeApart_eq_ok.mpr
      ⟨ofText?_eq_some_iff.mpr inOrder.apart, ofPart_of_names inOrder.header inOrder.namesKey⟩
  have hcases := runs_validate_cases.mp hrun
  rw [hparts] at hcases
  obtain ⟨found, hfind, hresult⟩ := hcases
  have hfound : found = .ok i.key := by
    refine (runs_findKey_iff.mp hfind).1.eq_ok ?_ ?_
    · intro reply hreply
      obtain ⟨s', hs'⟩ := hserver _ hreply
      have hserved : reply = (server p.keysFetch s').1 := hs'
      rw [hserved]
      obtain ⟨keys, hkeys, hdistinct, hlists⟩ := current s'
      exact ⟨keys, hkeys, hdistinct.publicKey? hlists⟩
    · intro keys other hfresh hother
      obtain ⟨c, hc, -, rfl⟩ := KeyCache.fresh?_eq_some.mp hfresh
      exact steady c.keys other (past.vetted c hc) (KeySet.lists_of_publicKey? hother)
  rw [hresult, hfound]
  exact judge_of_inOrder inOrder

/-! ## A token with a new key -/

/-- A key set with one key, of the exponent 3, as it is published. -/
def oneKeyText (id modulus : String) : Value :=
  .object [("keys", .array [.object [("kty", .text "RSA"), ("kid", .text id), ("n", .text modulus),
    ("e", .text "Aw")]])]

def publishedReply (id modulus : String) : WebReply := .response 200 (oneKeyText id modulus).render

theorem publishedReply_keys (id modulus : String) :
    (publishedReply id modulus).keys? = some ⟨[⟨some id, .rsa modulus "Aw"⟩]⟩ := by
  have hdecoder : KeySet.decoder (oneKeyText id modulus).draft =
      .ok ⟨[⟨some id, .rsa modulus "Aw"⟩]⟩ := rfl
  have hdecode := decode_of_reads (reads_chars _) hdecoder
  refine (WebReply.read_eq_ok_iff silenceFault).mp ?_
  unfold publishedReply Value.render
  simp only [WebReply.read, hdecode]
  rfl

/-- The keys before the rotation, none of them of the sample. -/
def formerKeys : KeySet := ⟨[⟨some "j", .rsa "AQ" "Aw"⟩]⟩

def formerLog : WebLog :=
  [⟨sampleProvider.keysFetch, publishedReply "j" "AQ"⟩,
    ⟨sampleProvider.keysFetch, publishedReply "j" "AQ"⟩]

/-- The sample comes too early: its key is not published yet. -/
theorem reaches_former : sampleProvider.Reaches formerLog (some ⟨formerKeys, 0⟩) := by
  have hkeys := publishedReply_keys "j" "AQ"
  have hsearch : sampleProvider.Search "k" ⟨0, silenceFault⟩ none formerLog
      (lookIn "k" ((publishedReply "j" "AQ").read silenceFault KeySet.decoder)) :=
    .refetched _ rfl ((WebReply.read_eq_ok_iff silenceFault).mpr hkeys) (by decide)
  have hcache : some ⟨formerKeys, 0⟩ =
      (sampleProvider.latest (formerLog.sentAt 0)).or none := by
    have hlatest := latest_of_last (p := sampleProvider)
      [⟨sampleProvider.keysFetch, publishedReply "j" "AQ"⟩] hkeys 0
    rw [Option.or_none]
    exact hlatest.symm
  have hrun := runs_validate_sample (runs_findKey_iff.mpr ⟨hsearch, hcache⟩)
  exact Reaches.start.call (.validate sampleToken) hrun

def sampleHeader : Members :=
  [(.ok "alg", .text (.ok "RS256") none), (.ok "kid", .text (.ok "k") none)]

theorem sample_header : EncodesObject sampleParts.header sampleHeader :=
  ⟨(Encoding.Base64.url.decode? sampleParts.header).getD [], by cbv, [], by cbv, by cbv⟩

theorem sample_namesKey : NamesKey sampleHeader .rs256 "k" where
  legible := by simp [sampleHeader]
  once := apart_of_nodup (by simp [sampleHeader])
  algorithm := ⟨_, .head _, none, rfl⟩
  id := ⟨_, .tail _ (.head _), none, rfl⟩
  known := by
    simp [Header.fields, Field.required, Field.optional, sampleHeader, oneOf, Algorithm.ofName?,
      Algorithm.all, Algorithm.name, Json.optional, text, Except.map]
  others name d hd _ := by
    simp only [sampleHeader, List.mem_cons, List.not_mem_nil, or_false, Prod.mk.injEq] at hd
    rcases hd with ⟨-, rfl⟩ | ⟨-, rfl⟩
    · exact ⟨_, none, rfl⟩
    · exact ⟨_, none, rfl⟩

def sampleIssuance : Issuance where
  parts := sampleParts
  header := sampleHeader
  payload := [(.ok "sub", .text (.ok "s") none), (.ok "exp", .number ⟨false, 101, 0, true⟩),
    (.ok "iss", .text (.ok "i") none)]
  algorithm := .rs256
  id := "k"
  key := .rsa sampleKey
  subject := "s"
  expiry := 101

theorem sample_vouches : Vouches sampleIssuance.payload "s" 101 "i" where
  legible := by simp [sampleIssuance]
  once := apart_of_nodup (by simp [sampleIssuance])
  subject := ⟨_, .head _, none, rfl⟩
  expiry := ⟨_, .tail _ (.head _), 0, rfl⟩
  issuer := ⟨_, .tail _ (.tail _ (.head _)), ["i"], Or.inl ⟨"i", rfl, none, rfl⟩, .head _⟩
  start := by simp [sampleIssuance]
  audience := by simp [sampleIssuance]

theorem sample_inOrder : sampleIssuance.InOrder sampleProvider sampleToken 161 where
  apart := ofText?_eq_some_iff.mp (takeApart_eq_ok.mp sample_apart).1
  header := sample_header
  payload := sample_payload
  namesKey := sample_namesKey
  signed := sample_signed
  vouches := sample_vouches
  unexpired := by decide
  audience := fun hasked => absurd rfl hasked

/-- The key of the token has replaced another one since the keys at hand were fetched, which are
still fresh. -/
theorem accepted_across_rotation_replaced :
    sampleProvider.Reaches formerLog (some ⟨formerKeys, 0⟩) ∧ formerKeys.publicKey? "k" = none ∧
      ((sampleProvider.validate sampleToken ⟨161000, silenceFault⟩ (some ⟨formerKeys, 0⟩) :
        Web (Except ProviderFault ValidatedToken × KeyCache)).conduct
          (fun _ s => (publishedReply "k" (String.ofList sampleModulus), s)) ()).1.1 =
        .ok ⟨"s", 101, sampleToken⟩ := by
  refine ⟨reaches_former, by decide, ?_⟩
  refine accepted_across_rotation sampleProvider _ () formerLog _ ⟨161000, silenceFault⟩ sampleToken
    sampleIssuance reaches_former ?_ ?_ sample_inOrder
  · intro s
    refine ⟨sampleKeys, publishedReply_keys _ _, List.pairwise_singleton _ _, ?_⟩
    exact KeySet.lists_of_publicKey? sample_key
  · intro keys key hkeys hkey
    obtain ⟨reply, hreply, hserved⟩ := publishes_iff.mp hkeys
    have hformer : reply = publishedReply "j" "AQ" := by simpa [formerLog] using hreply
    rw [hformer, publishedReply_keys] at hserved
    cases hserved
    simp [KeySet.Lists, sampleIssuance] at hkey

end OpenId

end Gatehouse.Provider
