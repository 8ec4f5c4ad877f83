import Gatehouse.Proofs.OpenId

/-!
# What the acceptance of a token comes to

Exactly which tokens a provider accepts (`validate_exact`), and what the audiences that it names add
to that (`validate_audience_exact`). Two demands are weaker than they look. The second at which a
token starts is read from its payload and then never compared with the clock, so that a token is
accepted long before it starts. And audiences are compared only with those that a token names: one
that names none, or names them in a shape that is not understood, is accepted whatever the audiences
are.
-/

namespace Gatehouse.Provider.OpenId

open Json Token Signature

variable {p : OpenId} {token : String} {moment : Moment} {cache cache' : KeyCache} {log : WebLog}
  {v : ValidatedToken}

/-- The grounds of an acceptance: the key that is found has signed the token, and its claims meet
the demands. -/
theorem runs_validate_iff_met :
    Runs (p.validate token) moment cache log (.ok v) cache' ↔
      ∃ parts header id key c, takeApart token = .ok (parts, header) ∧ header.keyId = some id ∧
        Runs (p.findKey id) moment cache log (.ok key) cache' ∧
        IsSigned header.algorithm key parts ∧ claimsOf parts = .ok c ∧
        p.demands.MetBy (moment.now / 1000) c ∧ v = ⟨c.subject, c.expiry, token⟩ := by
  simp only [runs_validate_iff, check_iff, and_assoc]

/-! ## Before a token starts -/

/-- A token is accepted exactly when its key is found and has signed it and its claims meet the
demands, and they meet them at whatever second they say that it starts. -/
theorem validate_exact (p : OpenId) (token : String) (moment : Moment) (cache cache' : KeyCache)
    (log : WebLog) (v : ValidatedToken) :
    Runs (p.validate token) moment cache log (.ok v) cache' ↔
      ∃ parts header id key c, takeApart token = .ok (parts, header) ∧ header.keyId = some id ∧
        Runs (p.findKey id) moment cache log (.ok key) cache' ∧
        IsSigned header.algorithm key parts ∧ claimsOf parts = .ok c ∧
        (∀ start, p.demands.MetBy (moment.now / 1000) { c with start := start }) ∧
        v = ⟨c.subject, c.expiry, token⟩ := by
  constructor
  · intro h
    obtain ⟨parts, header, id, key, c, hparts, hid, hfind, hsigned, hclaims, hmet, hv⟩ :=
      runs_validate_iff_met.mp h
    exact ⟨parts, header, id, key, c, hparts, hid, hfind, hsigned, hclaims,
      fun start => ⟨hmet.unexpired, hmet.issuer, hmet.audience⟩, hv⟩
  · rintro ⟨parts, header, id, key, c, hparts, hid, hfind, hsigned, hclaims, hmet, hv⟩
    exact runs_validate_iff_met.mpr
      ⟨parts, header, id, key, c, hparts, hid, hfind, hsigned, hclaims, hmet c.start, hv⟩

/-- The parts of a token that starts at the second 1000 and is good until the second 2002. -/
def earlyParts : Parts where
  header := sampleParts.header
  payload := "eyJzdWIiOiJzIiwiZXhwIjoyMDAyLCJpc3MiOiJpIiwibmJmIjoxMDAwfQ".toList
  signature := sampleParts.signature

def earlyToken : String :=
  String.ofList (earlyParts.header ++ '.' :: (earlyParts.payload ++ '.' :: earlyParts.signature))

/-- The modulus for which the third power of the signature is the block to be signed. -/
def earlyModulus : List Char :=
  "Af4".toList ++ List.replicate 270 'A' ++
    "P_Pzs_y-fafebf-mvz7_f76__vf3e5GDYWnZx2v0gZApu7-RpsSAnWrZz6axOcsWmkkUaM".toList

def earlyKeys : KeySet := ⟨[⟨some "k", .rsa (String.ofList earlyModulus) "Aw"⟩]⟩

def earlyKey : RsaKey := ⟨(Encoding.Base64.url.decode? earlyModulus).getD [], [3]⟩

theorem early_apart : takeApart earlyToken = .ok (earlyParts, ⟨.rs256, some "k"⟩) := by
  have hspell : earlyParts.Spell earlyToken :=
    ⟨String.toList_ofList, by decide, not_mem_sampleSignature⟩
  exact takeApart_eq_ok.mpr ⟨ofText?_eq_some_iff.mpr hspell, by cbv⟩

theorem early_computed :
    ((Encoding.Base64.url.decode? earlyModulus).isSome &&
      ((Encoding.Base64.url.decode? earlyParts.signature).isSome &&
        earlyKey.verifyFixed .sha256 earlyParts.message
          ((Encoding.Base64.url.decode? earlyParts.signature).getD []))) = true := by
  decide +kernel

theorem early_key : earlyKeys.publicKey? "k" = some (.rsa earlyKey) := by
  have h := early_computed
  rw [Bool.and_eq_true] at h
  exact publicKey?_single h.1

theorem early_signed : IsSigned .rs256 (.rsa earlyKey) earlyParts := by
  have h := early_computed
  rw [Bool.and_eq_true, Bool.and_eq_true] at h
  exact isSigned_of_verifyFixed h.2.1 h.2.2

theorem early_claims :
    claimsOf earlyParts = .ok ⟨"s", 2002, some 1000, some ["i"], none⟩ := by
  cbv

/-- At the second 161, and with clocks that are at most a minute apart, a token is accepted that
starts at the second 1000. -/
theorem validate_before_start :
    Runs (sampleProvider.validate earlyToken) ⟨161000, silenceFault⟩ (some ⟨earlyKeys, 0⟩) []
      (.ok ⟨"s", 2002, earlyToken⟩) (some ⟨earlyKeys, 0⟩) ∧
    (∃ d, HasClaim earlyToken "nbf" d ∧ d.Counts 1000) ∧
    161000 / 1000 + sampleProvider.leeway < 1000 := by
  refine ⟨?_, ?_, by decide⟩
  · refine runs_validate_iff_met.mpr ⟨earlyParts, ⟨.rs256, some "k"⟩, "k", .rsa earlyKey, _,
      early_apart, rfl, ?_, early_signed, early_claims, ?_, rfl⟩
    · refine @runs_findKey_of_fresh sampleProvider ⟨161000, silenceFault⟩ (some ⟨earlyKeys, 0⟩) "k"
        earlyKeys (.rsa earlyKey) ?_ early_key
      simp [KeyCache.fresh?, Option.filter, Duration.ofMillis, Duration.ofSeconds, sampleProvider]
    · exact ⟨by decide, ⟨["i"], rfl, by decide⟩, fun hasked => absurd rfl hasked⟩
  · obtain ⟨ms, hencodes, hreads⟩ := claimsOf_reads early_claims
    obtain ⟨d, hd, hcounts, -⟩ := (hreads.start 1000).mp rfl
    have hspell := ofText?_eq_some_iff.mp (takeApart_eq_ok.mp early_apart).1
    exact ⟨d, (hasClaim_iff hspell hencodes).mpr hd, hcounts⟩

/-! ## Audiences -/

/-- The claim of the audiences that a token names, when they can be understood. -/
theorem hasClaim_aud_iff {parts : Parts} {header : Header} {c : Claims} {names : List String}
    (hparts : takeApart token = .ok (parts, header)) (hclaims : claimsOf parts = .ok c) :
    c.audiences = some names ↔ ∃ d, HasClaim token "aud" d ∧ d.Tells names := by
  obtain ⟨ms, hencodes, hreads⟩ := claimsOf_reads hclaims
  have hspell := ofText?_eq_some_iff.mp (takeApart_eq_ok.mp hparts).1
  rw [hreads.audiences]
  exact exists_congr fun d => and_congr_left fun _ => (hasClaim_iff hspell hencodes).symm

/-- A provider that names audiences accepts what it would accept without naming any, less the
tokens that name others only. -/
theorem validate_audience_exact (p : OpenId) (token : String) (moment : Moment)
    (cache cache' : KeyCache) (log : WebLog) (v : ValidatedToken) :
    Runs (p.validate token) moment cache log (.ok v) cache' ↔
      Runs ({ p with audiences := [] }.validate token) moment cache log (.ok v) cache' ∧
        (p.audiences ≠ [] → ∀ d names, HasClaim token "aud" d → d.Tells names →
          ∃ a ∈ p.audiences, a ∈ names) := by
  constructor
  · intro h
    obtain ⟨parts, header, id, key, c, hparts, hid, hfind, hsigned, hclaims, hmet, hv⟩ :=
      runs_validate_iff_met.mp h
    refine ⟨?_, fun hasked d names hd htells => ?_⟩
    · -- Keys are found in the same way, whatever the audiences are.
      have hmet' : { p with audiences := [] }.demands.MetBy (moment.now / 1000) c :=
        ⟨hmet.unexpired, hmet.issuer, fun hasked => absurd rfl hasked⟩
      exact runs_validate_iff_met.mpr
        ⟨parts, header, id, key, c, hparts, hid, hfind, hsigned, hclaims, hmet', hv⟩
    · have hnames := (hasClaim_aud_iff hparts hclaims).mpr ⟨d, hd, htells⟩
      exact hmet.audience hasked names hnames
  · rintro ⟨h, haudience⟩
    obtain ⟨parts, header, id, key, c, hparts, hid, hfind, hsigned, hclaims, hmet, hv⟩ :=
      runs_validate_iff_met.mp h
    have hmet' : p.demands.MetBy (moment.now / 1000) c := by
      refine ⟨hmet.unexpired, hmet.issuer, fun hasked names hnames => ?_⟩
      obtain ⟨d, hd, htells⟩ := (hasClaim_aud_iff hparts hclaims).mp hnames
      exact haudience hasked d names hd htells
    exact runs_validate_iff_met.mpr
      ⟨parts, header, id, key, c, hparts, hid, hfind, hsigned, hclaims, hmet', hv⟩

/-- A token that names no audience is accepted by a provider that names one. -/
theorem validate_without_audience :
    Runs ({ sampleProvider with audiences := ["a"] }.validate sampleToken) ⟨161000, silenceFault⟩
      (some ⟨sampleKeys, 0⟩) [] (.ok ⟨"s", 101, sampleToken⟩) (some ⟨sampleKeys, 0⟩) ∧
    ∀ d, ¬ HasClaim sampleToken "aud" d := by
  constructor
  · refine runs_validate_iff_met.mpr ⟨sampleParts, ⟨.rs256, some "k"⟩, "k", .rsa sampleKey, _,
      sample_apart, rfl, ?_, sample_signed, sample_claims, ?_, rfl⟩
    · refine @runs_findKey_of_fresh { sampleProvider with audiences := ["a"] }
        ⟨161000, silenceFault⟩ (some ⟨sampleKeys, 0⟩) "k" sampleKeys (.rsa sampleKey) ?_ sample_key
      simp [KeyCache.fresh?, Option.filter, Duration.ofMillis, Duration.ofSeconds, sampleProvider]
    · refine ⟨by decide, ⟨["i"], rfl, by decide⟩, ?_⟩
      rintro - names ⟨⟩
  · intro d hd
    have hspell := ofText?_eq_some_iff.mp (takeApart_eq_ok.mp sample_apart).1
    have hmember := ((hasClaim_iff hspell sample_payload).mp hd).1
    simp at hmember

end Gatehouse.Provider.OpenId
