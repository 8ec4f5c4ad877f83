import Gatehouse.Proofs.Lookup
import Gatehouse.Proofs.Token
import Mathlib

/-!
# Tokens that an OpenID Connect provider accepts

Whatever is at hand and whatever the provider is answered on the web, a token is accepted on good
grounds only (`validate_sound`): its header names an accepted algorithm and a key, the first entry
of that name in a published set is of the right kind and checks its signature, and its payload says
what is made of it.
-/

namespace Gatehouse.Provider

open Json Token Signature

/-- What the acceptance of a token rests on: its parts, the members of its header and its payload,
the algorithm and the id that it names, and an entry of a key set with its key. -/
structure Grounds where
  parts : Parts
  header : Members
  payload : Members
  algorithm : Algorithm
  id : String
  keys : KeySet
  entry : PublishedKey
  key : PublicKey

/-- An entry of a key set is the first one with an id. -/
def IsFirst (keys : KeySet) (id : String) (entry : PublishedKey) : Prop :=
  entry.id = some id ∧ ∃ before after, keys.keys = before ++ entry :: after ∧
    ∀ other ∈ before, other.id ≠ some id

/-- Grounds on which a provider may accept a token at a second. -/
structure Grounds.Justify (g : Grounds) (p : OpenId) (token : String) (second : Nat)
    (v : ValidatedToken) : Prop where
  apart : token.toList = g.parts.header ++ '.' :: (g.parts.payload ++ '.' :: g.parts.signature)
  header : EncodesObject g.parts.header g.header
  payload : EncodesObject g.parts.payload g.payload
  namesKey : ∃ d, HasMember g.header "kid" d ∧ d.Says g.id
  namesAlgorithm : ∃ d, HasMember g.header "alg" d ∧ d.Names g.algorithm.name
  /-- Whatever the header names as the algorithm is an accepted one. -/
  namesAccepted : ∀ d name, HasMember g.header "alg" d → d.Names name →
    ∃ a ∈ Algorithm.accepted, a.name = name
  first : IsFirst g.keys g.id g.entry
  fits : g.algorithm.Fits g.entry.material
  key : g.entry.material.publicKey? = some g.key
  signed : IsSigned g.algorithm g.key g.parts
  issuer : ∃ d, HasMember g.payload "iss" d ∧ d.Lists p.discovery.issuer
  subject : ∃ d, HasMember g.payload "sub" d ∧ d.Says v.subject
  expiry : ∃ d, HasMember g.payload "exp" d ∧ d.Counts v.expiry
  unexpired : second ≤ v.expiry + p.leeway
  raw : v.raw = token

namespace OpenId

variable {p : OpenId} {token : String} {moment : Moment} {cache cache' : KeyCache} {log : WebLog}
  {v : ValidatedToken}

/-- What a token that came apart comes to with a key. -/
def judge (p : OpenId) (moment : Moment) (parts : Parts) (header : Header) (token : String)
    (key : PublicKey) : Except ProviderFault ValidatedToken :=
  ((check p.demands (moment.now / 1000) parts header key).mapError .rejected).map fun claims =>
    ⟨claims.subject, claims.expiry, token⟩

theorem judge_eq_ok {parts : Parts} {header : Header} {key : PublicKey} :
    p.judge moment parts header token key = .ok v ↔
      ∃ claims, check p.demands (moment.now / 1000) parts header key = .ok claims ∧
        v = ⟨claims.subject, claims.expiry, token⟩ := by
  unfold judge
  rw [map_eq_ok]
  simp only [mapError_eq_ok, eq_comm (a := v)]

/-- Without a key id in its header, a token is refused at once; with one it is what the search for
the key and then the check with the key come to. -/
theorem runs_validate_cases {r : Except ProviderFault ValidatedToken} :
    Runs (p.validate token) moment cache log r cache' ↔
      match takeApart token with
      | .error fault => log = [] ∧ r = .error (.rejected fault) ∧ cache' = cache
      | .ok (parts, header) =>
        match header.keyId with
        | none => log = [] ∧ r = .error .missingKeyId ∧ cache' = cache
        | some id => ∃ found, Runs (p.findKey id) moment cache log found cache' ∧
            r = found >>= p.judge moment parts header token := by
  have hcheck : ∀ (parts : Parts) (header : Header) (key : PublicKey) (cache : KeyCache)
      (log : WebLog) (r : Except ProviderFault ValidatedToken) (cache' : KeyCache),
      Runs (do
        let claims ← checked (check p.demands ((← read).now / 1000) parts header key)
        return ⟨claims.subject, claims.expiry, token⟩) moment cache log r cache' ↔
        log = [] ∧ r = p.judge moment parts header token key ∧ cache' = cache := by
    intro parts header key cache log r cache'
    rw [runs_read_bind]
    unfold judge
    cases check p.demands (moment.now / 1000) parts header key with
    | error fault => exact runs_throw
    | ok claims => exact runs_pure
  unfold validate
  cases takeApart token with
  | error fault => exact runs_throw
  | ok apart =>
    obtain ⟨parts, header⟩ := apart
    dsimp only
    rw [runs_checked_bind]
    cases header.keyId with
    | none => exact runs_throw
    | some id =>
      dsimp only
      rw [runs_bind]
      constructor
      · rintro (⟨fault, rfl, hfind⟩ | ⟨key, between, first, last, rfl, hfind, hlast⟩)
        · exact ⟨.error fault, hfind, rfl⟩
        · obtain ⟨rfl, rfl, rfl⟩ := (hcheck parts header key ..).mp hlast
          rw [List.append_nil]
          exact ⟨.ok key, hfind, rfl⟩
      · rintro ⟨found, hfind, rfl⟩
        cases found with
        | error fault => exact Or.inl ⟨fault, rfl, hfind⟩
        | ok key =>
          exact Or.inr ⟨key, cache', log, [], (List.append_nil log).symm, hfind,
            (hcheck parts header key ..).mpr ⟨rfl, rfl, rfl⟩⟩

/-- A token is accepted when it comes apart, its key is found, and it passes the check with it. -/
theorem runs_validate_iff :
    Runs (p.validate token) moment cache log (.ok v) cache' ↔
      ∃ parts header id key claims, takeApart token = .ok (parts, header) ∧
        header.keyId = some id ∧ Runs (p.findKey id) moment cache log (.ok key) cache' ∧
          check p.demands (moment.now / 1000) parts header key = .ok claims ∧
            v = ⟨claims.subject, claims.expiry, token⟩ := by
  rw [runs_validate_cases]
  constructor
  · intro h
    cases hparts : takeApart token with
    | error fault =>
      rw [hparts] at h
      cases h.2.1
    | ok apart =>
      obtain ⟨parts, header⟩ := apart
      rw [hparts] at h
      dsimp only at h
      cases hid : header.keyId with
      | none =>
        rw [hid] at h
        cases h.2.1
      | some id =>
        rw [hid] at h
        obtain ⟨found, hfind, hv⟩ := h
        obtain ⟨key, rfl, hjudge⟩ := bind_eq_ok.mp hv.symm
        obtain ⟨claims, hclaims, rfl⟩ := judge_eq_ok.mp hjudge
        exact ⟨parts, header, id, key, claims, rfl, hid, hfind, hclaims, rfl⟩
  · rintro ⟨parts, header, id, key, claims, hparts, hid, hfind, hcheck, rfl⟩
    rw [hparts]
    dsimp only
    rw [hid]
    exact ⟨.ok key, hfind, (judge_eq_ok.mpr ⟨claims, hcheck, rfl⟩).symm⟩

/-- A token that is accepted passes the check with a key of a set that may be used. -/
theorem runs_validate (h : Runs (p.validate token) moment cache log (.ok v) cache') :
    ∃ parts header id keys key claims, takeApart token = .ok (parts, header) ∧
      header.keyId = some id ∧ p.Offers moment cache log keys ∧ keys.publicKey? id = some key ∧
        check p.demands (moment.now / 1000) parts header key = .ok claims ∧
          v = ⟨claims.subject, claims.expiry, token⟩ := by
  obtain ⟨parts, header, id, key, claims, hparts, hid, hfind, hcheck, hv⟩ :=
    runs_validate_iff.mp h
  obtain ⟨keys, hoffers, hkey⟩ := runs_findKey hfind
  exact ⟨parts, header, id, keys, key, claims, hparts, hid, hoffers, hkey, hcheck, hv⟩

/-- A key that is fresh at hand is found without any request. -/
theorem runs_findKey_of_fresh {id : String} {keys : KeySet} {key : PublicKey}
    (hfresh : cache.fresh? p.keysTtl moment.now = some keys)
    (hkey : keys.publicKey? id = some key) :
    Runs (p.findKey id) moment cache [] (.ok key) cache := by
  have hcurrent : Runs p.currentKeys moment cache [] (.ok keys) cache := by
    unfold currentKeys
    rw [runs_get_bind, runs_read_bind, hfresh]
    exact runs_pure.mpr ⟨rfl, rfl, rfl⟩
  refine runs_bind.mpr (Or.inr ⟨keys, cache, [], [], rfl, hcurrent, ?_⟩)
  rw [hkey]
  exact runs_pure.mpr ⟨rfl, rfl, rfl⟩

/-- A token that passes the check with a fresh key at hand is accepted without any request. -/
theorem validate_of_fresh {parts : Parts} {header : Header} {id : String} {keys : KeySet}
    {key : PublicKey} {claims : Claims} (hparts : takeApart token = .ok (parts, header))
    (hid : header.keyId = some id) (hfresh : cache.fresh? p.keysTtl moment.now = some keys)
    (hkey : keys.publicKey? id = some key)
    (hcheck : check p.demands (moment.now / 1000) parts header key = .ok claims) :
    Runs (p.validate token) moment cache [] (.ok ⟨claims.subject, claims.expiry, token⟩) cache :=
  runs_validate_iff.mpr
    ⟨parts, header, id, key, claims, hparts, hid, runs_findKey_of_fresh hfresh hkey, hcheck, rfl⟩

/-- The key of an id is that of the first entry with it. -/
theorem publicKey?_eq_some {keys : KeySet} {id : String} {key : PublicKey}
    (h : keys.publicKey? id = some key) :
    ∃ entry, IsFirst keys id entry ∧ entry.material.publicKey? = some key := by
  unfold KeySet.publicKey? KeySet.entry? at h
  obtain ⟨entry, hentry, hkey⟩ := Option.bind_eq_some_iff.mp h
  obtain ⟨hid, before, after, hkeys, hbefore⟩ := List.find?_eq_some_iff_append.mp hentry
  rw [beq_iff_eq] at hid
  refine ⟨entry, ⟨hid, before, after, hkeys, fun other hother => ?_⟩, hkey⟩
  simpa using hbefore other hother

/-- A token is accepted on good grounds only, with a key of a set that is fresh at hand or served on
the way; and keys at hand after any lookups before were served to one of them. -/
theorem validate_sound (p : OpenId) (token : String) (moment : Moment) (cache cache' : KeyCache)
    (log : WebLog) (v : ValidatedToken)
    (h : Runs (p.validate token) moment cache log (.ok v) cache') :
    ∃ g : Grounds, g.Justify p token (moment.now / 1000) v ∧
      p.Offers moment cache log g.keys ∧
      ∀ history, p.Reaches history cache → p.Publishes (history ++ log) g.keys := by
  obtain ⟨parts, header, id, keys, key, claims, hparts, hid, hoffers, hkey, hcheck, rfl⟩ :=
    runs_validate h
  obtain ⟨htext, hheader⟩ := takeApart_eq_ok.mp hparts
  obtain ⟨headerMembers, hencodes, ⟨alg, halg, hname⟩, hkid⟩ := Header.ofPart_ok hheader
  obtain ⟨hsigned, hclaims, htime, names, hnames, hissuer⟩ := check_ok hcheck
  obtain ⟨payloadMembers, hpayload, hsubject, hexpiry, hissuers⟩ := claimsOf_ok hclaims
  obtain ⟨entry, hfirst, hmaterial⟩ := publicKey?_eq_some hkey
  have hfits : header.algorithm.Fits entry.material := by
    obtain ⟨verify, signature, hverify, -⟩ := hsigned
    exact fits_of_verifier? hmaterial (by rw [hverify]; rfl)
  refine ⟨⟨parts, headerMembers, payloadMembers, header.algorithm, id, keys, entry, key⟩, ?_,
    hoffers, fun history hreaches => hoffers.publishes hreaches.vetted⟩
  exact {
    apart := (ofText?_eq_some_iff.mp htext).1
    header := hencodes
    payload := hpayload
    namesKey := hkid id hid
    namesAlgorithm := ⟨alg, halg, hname⟩
    namesAccepted := by
      intro d name hd hnamed
      -- A header with two such members is not read at all, so this is the one that was.
      have hsame : d = alg := halg.2 d hd.1
      rw [hsame] at hnamed
      exact ⟨header.algorithm, hfits.mem_accepted, Draft.Names.unique hname hnamed⟩
    first := hfirst
    fits := hfits
    key := hmaterial
    signed := hsigned
    issuer := hissuers names hnames _ hissuer
    subject := hsubject
    expiry := hexpiry
    unexpired := htime
    raw := rfl }

/-! ## A token that is accepted -/

/-- A provider whose clock may be a minute off. -/
def sampleProvider : OpenId where
  discovery := ⟨"i", "keys", "claims"⟩
  audiences := []
  leeway := 60
  keysTtl := .ofSeconds 600
  patience := .ofSeconds 1

/-- The parts of a token of the subject `s` that is good until the second 101. The signature is the
number `2 ^ 683`. -/
def sampleParts : Parts where
  header := "eyJhbGciOiJSUzI1NiIsImtpZCI6ImsifQ".toList
  payload := "eyJzdWIiOiJzIiwiZXhwIjoxMDEsImlzcyI6ImkifQ".toList
  signature := List.replicate 228 'A' ++ 'C' :: List.replicate 114 'A'

/-- The token of these parts. -/
def sampleToken : String :=
  String.ofList (sampleParts.header ++ '.' :: (sampleParts.payload ++ '.' :: sampleParts.signature))

/-- The modulus for which the third power of the signature is the block to be signed: `2 ^ 2049`
less the block. -/
def sampleModulus : List Char :=
  "Af4".toList ++ List.replicate 270 'A' ++
    "P_Pzs_y-fafebf-mvz7_f76__vfqJrQoKhUA4zJkdHCD6Ydw9hb7eirCZBN6FYNMDcd1i8".toList

/-- A set with one key, of the exponent 3. -/
def sampleKeys : KeySet := ⟨[⟨some "k", .rsa (String.ofList sampleModulus) "Aw"⟩]⟩

def sampleKey : RsaKey := ⟨(Encoding.Base64.url.decode? sampleModulus).getD [], [3]⟩

theorem not_mem_sampleSignature : '.' ∉ sampleParts.signature := by
  have hrun : ∀ n, '.' ∉ List.replicate n 'A' := by
    intro n hdot
    exact absurd (List.eq_of_mem_replicate hdot) (by decide)
  intro hdot
  rcases List.mem_append.mp hdot with hdot | hdot
  · exact hrun 228 hdot
  · rcases List.mem_cons.mp hdot with hc | hdot
    · exact absurd hc (by decide)
    · exact hrun 114 hdot

theorem sample_apart : takeApart sampleToken = .ok (sampleParts, ⟨.rs256, some "k"⟩) := by
  have hspell : sampleParts.Spell sampleToken :=
    ⟨String.toList_ofList, by decide, not_mem_sampleSignature⟩
  exact takeApart_eq_ok.mpr ⟨ofText?_eq_some_iff.mpr hspell, by cbv⟩

theorem sample_payload : EncodesObject sampleParts.payload
    [(.ok "sub", .text (.ok "s") none), (.ok "exp", .number ⟨false, 101, 0, true⟩),
      (.ok "iss", .text (.ok "i") none)] :=
  ⟨(Encoding.Base64.url.decode? sampleParts.payload).getD [], by cbv, [], by cbv, by cbv⟩

/-- The key of a set with one key, of the exponent 3. -/
theorem publicKey?_single {modulus : List Char}
    (h : (Encoding.Base64.url.decode? modulus).isSome = true) :
    KeySet.publicKey? ⟨[⟨some "k", .rsa (String.ofList modulus) "Aw"⟩]⟩ "k" =
      some (.rsa ⟨(Encoding.Base64.url.decode? modulus).getD [], [3]⟩) := by
  obtain ⟨bytes, hbytes⟩ := Option.isSome_iff_exists.mp h
  have hmodulus : Encoding.Base64.url.decode? (String.ofList modulus).toList = some bytes := by
    rwa [String.toList_ofList]
  have hexponent : Encoding.Base64.url.decode? "Aw".toList = some [3] := by cbv
  have hentry : KeySet.entry? ⟨[⟨some "k", .rsa (String.ofList modulus) "Aw"⟩]⟩ "k" =
      some ⟨some "k", .rsa (String.ofList modulus) "Aw"⟩ := by
    simp [KeySet.entry?]
  unfold KeySet.publicKey?
  rw [hentry, Option.bind_some, KeyMaterial.publicKey?, hmodulus, hexponent, hbytes]
  simp only [bind, Option.bind, pure, Option.getD]

/-- A signature by RS256 that can be read and is good. -/
theorem isSigned_of_verifyFixed {key : RsaKey} {parts : Parts}
    (hsome : (Encoding.Base64.url.decode? parts.signature).isSome = true)
    (h : key.verifyFixed .sha256 parts.message
      ((Encoding.Base64.url.decode? parts.signature).getD []) = true) :
    IsSigned .rs256 (.rsa key) parts := by
  obtain ⟨signature, hsignature⟩ := Option.isSome_iff_exists.mp hsome
  rw [hsignature] at h
  exact ⟨_, signature, rfl, hsignature, h⟩

/-- All of this is computed at once, since it takes the kernel a while. -/
theorem sample_computed :
    ((Encoding.Base64.url.decode? sampleModulus).isSome &&
      ((Encoding.Base64.url.decode? sampleParts.signature).isSome &&
        sampleKey.verifyFixed .sha256 sampleParts.message
          ((Encoding.Base64.url.decode? sampleParts.signature).getD []))) = true := by
  decide +kernel

theorem sample_key : sampleKeys.publicKey? "k" = some (.rsa sampleKey) := by
  have h := sample_computed
  rw [Bool.and_eq_true] at h
  exact publicKey?_single h.1

theorem sample_signed : IsSigned .rs256 (.rsa sampleKey) sampleParts := by
  have h := sample_computed
  rw [Bool.and_eq_true, Bool.and_eq_true] at h
  exact isSigned_of_verifyFixed h.2.1 h.2.2

theorem sample_claims :
    claimsOf sampleParts = .ok ⟨"s", 101, none, some ["i"], none⟩ := by
  cbv

theorem sample_check :
    check sampleProvider.demands (161000 / 1000) sampleParts ⟨.rs256, some "k"⟩ (.rsa sampleKey) =
      .ok ⟨"s", 101, none, some ["i"], none⟩ := by
  refine check_eq_ok.mpr ⟨checkSignature_eq_ok.mpr ⟨?_, sample_signed⟩, sample_claims, ?_⟩
  · decide
  · rfl

/-- With the key fresh at hand, the token is accepted to the last second. -/
theorem validate_sound_sample :
    Runs (sampleProvider.validate sampleToken) ⟨161000, silenceFault⟩ (some ⟨sampleKeys, 0⟩) []
      (.ok ⟨"s", 101, sampleToken⟩) (some ⟨sampleKeys, 0⟩) ∧
    ∃ g : Grounds, g.Justify sampleProvider sampleToken 161 ⟨"s", 101, sampleToken⟩ ∧
      sampleProvider.Offers ⟨161000, silenceFault⟩ (some ⟨sampleKeys, 0⟩) [] g.keys := by
  have hrun : Runs (sampleProvider.validate sampleToken) ⟨161000, silenceFault⟩
      (some ⟨sampleKeys, 0⟩) [] (.ok ⟨"s", 101, sampleToken⟩) (some ⟨sampleKeys, 0⟩) := by
    refine @validate_of_fresh sampleProvider sampleToken ⟨161000, silenceFault⟩
      (some ⟨sampleKeys, 0⟩) sampleParts ⟨.rs256, some "k"⟩ "k" sampleKeys (.rsa sampleKey)
      ⟨"s", 101, none, some ["i"], none⟩ sample_apart rfl ?_ sample_key sample_check
    simp [KeyCache.fresh?, Option.filter, Duration.ofMillis, Duration.ofSeconds, sampleProvider]
  obtain ⟨g, hg, hoffers, -⟩ := validate_sound _ _ _ _ _ _ _ hrun
  exact ⟨hrun, g, hg, hoffers⟩

end OpenId

end Gatehouse.Provider
