import Gatehouse.Credential
import Gatehouse.Proofs.Ascii
import Gatehouse.Proofs.HeaderText

/-!
# What counts as a credential

The credential of a request is a matter of three headers. The first authorization header decides if
it is a bearer header to the letter (`IsBearer`), and is as good as absent otherwise; then the two
client headers decide, of which neither counts without the other (`ofHeaders_exact`).
-/

namespace Gatehouse.Credential

open Http Text

/-- A value is a bearer header: the scheme in any case, one space, and a token without a space. -/
def IsBearer (value : List UInt8) (token : String) : Prop :=
  ∃ scheme, IsText value (scheme ++ " " ++ token) ∧ lowerAsciiText scheme = "bearer" ∧
    token ≠ "" ∧ ' ' ∉ token.toList

/-- The first authorization header is a bearer header with a token. -/
def OffersToken (hs : Headers) (token : String) : Prop :=
  ∃ value, hs.first? authorizationHeader = some value ∧ IsBearer value token

/-- The first values of both client headers are texts: the id, up to the blanks around it, and the
secret. -/
def OffersPair (hs : Headers) (id secret : String) : Prop :=
  (∃ value text, hs.first? clientIdHeader = some value ∧ IsText value text ∧ id = trim text) ∧
    ∃ value, hs.first? clientSecretHeader = some value ∧ IsText value secret

variable {hs : Headers} {id secret token : String} {value : List UInt8}

/-! ## Bearer headers -/

theorem sameIgnoringCase_bearer {scheme : String} :
    sameIgnoringCase scheme "bearer" = true ↔ lowerAsciiText scheme = "bearer" := by
  have hlower : "bearer".toList.map lowerAscii = "bearer".toList := by decide
  unfold sameIgnoringCase lowerAsciiText
  rw [beq_iff_eq, hlower]
  constructor
  · intro h
    rw [h, String.ofList_toList]
  · intro h
    exact String.toList_ofList.symm.trans (congrArg String.toList h)

theorem space_notMem_of_bearer {scheme : String} (h : lowerAsciiText scheme = "bearer") :
    ' ' ∉ scheme.toList := by
  intro hspace
  have hlowered : lowerAscii ' ' ∈ (lowerAsciiText scheme).toList := by
    rw [lowerAsciiText, String.toList_ofList]
    exact List.mem_map_of_mem hspace
  rw [h] at hlowered
  exact absurd hlowered (by decide)

theorem toList_scheme_token (scheme token : String) :
    (scheme ++ " " ++ token).toList = scheme.toList ++ [token.toList].flatMap (' ' :: ·) := by
  simp [String.toList_append]

theorem bearerToken?_eq_some {text : String} :
    bearerToken? text = some token ↔
      ∃ scheme, text = scheme ++ " " ++ token ∧ lowerAsciiText scheme = "bearer" ∧ token ≠ "" ∧
        ' ' ∉ token.toList := by
  unfold bearerToken?
  constructor
  · intro h
    split at h
    · next scheme cs hsplit =>
      obtain ⟨htext, hparts⟩ := splitOn_eq_cons.mp hsplit
      split at h
      · next haccepted =>
        cases h
        rw [Bool.and_eq_true, sameIgnoringCase_bearer] at haccepted
        obtain ⟨hscheme, hne⟩ := haccepted
        refine ⟨String.ofList scheme, ?_, hscheme, ?_, ?_⟩
        · rw [← String.toList_inj, toList_scheme_token, String.toList_ofList,
            String.toList_ofList, htext]
        · simpa using hne
        · rw [String.toList_ofList]
          exact hparts cs (by simp)
      · cases h
    · cases h
  · rintro ⟨scheme, rfl, hscheme, hne, htoken⟩
    have hsplit : splitOn (· == ' ') (scheme ++ " " ++ token).toList =
        [scheme.toList, token.toList] := by
      rw [toList_scheme_token, splitOn_eq_cons]
      exact ⟨rfl, by simp [space_notMem_of_bearer hscheme, htoken]⟩
    have hcase : sameIgnoringCase scheme "bearer" = true := sameIgnoringCase_bearer.mpr hscheme
    rw [hsplit]
    simp [hcase, hne]

theorem bearer_eq_some :
    (hs.text? authorizationHeader).bind bearerToken? = some token ↔ OffersToken hs token := by
  unfold OffersToken IsBearer
  simp only [Option.bind_eq_some_iff, Headers.text?_eq_some, bearerToken?_eq_some]
  constructor
  · rintro ⟨_, ⟨value, hvalue, htext⟩, scheme, rfl, hrest⟩
    exact ⟨value, hvalue, scheme, htext, hrest⟩
  · rintro ⟨value, hvalue, scheme, htext, hrest⟩
    exact ⟨_, ⟨value, hvalue, htext⟩, scheme, rfl, hrest⟩

/-! ## Client pairs -/

theorem clientPair_eq_client : clientPair hs = .client id secret ↔ OffersPair hs id secret := by
  have hid : ∀ text, hs.text? clientIdHeader = some text ↔
      ∃ value, hs.first? clientIdHeader = some value ∧ IsText value text :=
    fun text => Headers.text?_eq_some
  have hsecret : ∀ text, hs.text? clientSecretHeader = some text ↔
      ∃ value, hs.first? clientSecretHeader = some value ∧ IsText value text :=
    fun text => Headers.text?_eq_some
  unfold clientPair OffersPair
  constructor
  · intro h
    split at h
    · next text text' htext htext' =>
      cases h
      obtain ⟨value, hvalue, hshown⟩ := (hid text).mp htext
      exact ⟨⟨value, text, hvalue, hshown, rfl⟩, (hsecret _).mp htext'⟩
    · cases h
  · rintro ⟨⟨value, text, hvalue, hshown, rfl⟩, hpresented⟩
    rw [(hid text).mpr ⟨value, hvalue, hshown⟩, (hsecret secret).mpr hpresented]

theorem clientPair_eq_absent :
    clientPair hs = .absent ↔ ∀ id secret, ¬OffersPair hs id secret := by
  constructor
  · intro h id secret hpair
    rw [clientPair_eq_client.mpr hpair] at h
    cases h
  · intro h
    cases hpair : clientPair hs with
    | bearer token =>
      unfold clientPair at hpair
      split at hpair <;> cases hpair
    | client id secret => exact absurd (clientPair_eq_client.mp hpair) (h id secret)
    | absent => rfl

theorem clientPair_filter (hs : Headers) :
    clientPair (hs.filter (·.name != authorizationHeader)) = clientPair hs := by
  unfold clientPair Headers.text?
  rw [Headers.first?_filter (by decide), Headers.first?_filter (by decide)]

/-! ## All headers -/

theorem ofHeaders_of_token (h : OffersToken hs token) : ofHeaders hs = .bearer token := by
  unfold ofHeaders
  rw [bearer_eq_some.mpr h]

theorem ofHeaders_of_no_token (h : ∀ token, ¬OffersToken hs token) :
    ofHeaders hs = clientPair hs := by
  have hnone : (hs.text? authorizationHeader).bind bearerToken? = none := by
    apply Option.eq_none_iff_forall_ne_some.mpr
    intro token htoken
    exact h token (bearer_eq_some.mp htoken)
  unfold ofHeaders
  rw [hnone]

theorem ofHeaders_eq_bearer : ofHeaders hs = .bearer token ↔ OffersToken hs token := by
  constructor
  · intro h
    by_cases hoffers : ∃ token, OffersToken hs token
    · obtain ⟨token', htoken'⟩ := hoffers
      rw [ofHeaders_of_token htoken'] at h
      cases h
      exact htoken'
    · rw [ofHeaders_of_no_token (not_exists.mp hoffers)] at h
      unfold clientPair at h
      split at h <;> cases h
  · exact ofHeaders_of_token

/-- What is not a bearer token comes from the client headers, if from anywhere. -/
theorem ofHeaders_eq_of_ne_bearer {c : Credential} (hc : ∀ token, c ≠ .bearer token) :
    ofHeaders hs = c ↔ (∀ token, ¬OffersToken hs token) ∧ clientPair hs = c := by
  constructor
  · intro h
    have hnone : ∀ token, ¬OffersToken hs token := by
      intro token htoken
      exact hc token (h.symm.trans (ofHeaders_of_token htoken))
    exact ⟨hnone, (ofHeaders_of_no_token hnone).symm.trans h⟩
  · rintro ⟨hnone, h⟩
    exact (ofHeaders_of_no_token hnone).trans h

theorem ofHeaders_filter (h : ∀ token, ¬OffersToken hs token) :
    ofHeaders (hs.filter (·.name != authorizationHeader)) = ofHeaders hs := by
  -- The filter leaves no authorization header at all, so none with a token.
  have hnone : ∀ token, ¬OffersToken (hs.filter (·.name != authorizationHeader)) token := by
    rintro token ⟨value, hvalue, -⟩
    unfold Headers.first? at hvalue
    obtain ⟨header, hfound, -⟩ := Option.map_eq_some_iff.mp hvalue
    have hkept := (List.mem_filter.mp (List.mem_of_find?_eq_some hfound)).2
    have hname := List.find?_some hfound
    simp [eq_of_beq hname] at hkept
  rw [ofHeaders_of_no_token hnone, ofHeaders_of_no_token h, clientPair_filter]

/-- A request offers the token of its bearer header, or else the pair of its client headers, or
else nothing. Authorization headers of which the first is no bearer header make no difference. -/
theorem ofHeaders_exact (hs : Headers) :
    (∀ token, ofHeaders hs = .bearer token ↔ OffersToken hs token) ∧
    (∀ id secret, ofHeaders hs = .client id secret ↔
      (∀ token, ¬OffersToken hs token) ∧ OffersPair hs id secret) ∧
    (ofHeaders hs = .absent ↔
      (∀ token, ¬OffersToken hs token) ∧ ∀ id secret, ¬OffersPair hs id secret) ∧
    ((∀ token, ¬OffersToken hs token) →
      ofHeaders (hs.filter (·.name != authorizationHeader)) = ofHeaders hs) := by
  refine ⟨fun token => ofHeaders_eq_bearer, fun id secret => ?_, ?_, ofHeaders_filter⟩
  · rw [ofHeaders_eq_of_ne_bearer (by simp), clientPair_eq_client]
  · rw [ofHeaders_eq_of_ne_bearer (by simp), clientPair_eq_absent]

/-- A bearer header with two spaces is none, so the client pair counts as if it stood alone. -/
theorem ofHeaders_exact_fallback :
    let hs : Headers := [⟨"authorization", "Bearer  token".toUTF8.toList⟩,
      ⟨"authorization", "Bearer token".toUTF8.toList⟩, ⟨"x-client-id", " id ".toUTF8.toList⟩,
      ⟨"x-client-secret", " secret ".toUTF8.toList⟩]
    (∀ token, ¬OffersToken hs token) ∧ OffersPair hs "id" " secret " ∧
      ofHeaders (hs.filter (·.name != authorizationHeader)) = .client "id" " secret " := by
  intro hs
  have hpair : ofHeaders hs = .client "id" " secret " := by decide +kernel
  obtain ⟨-, hclient, -, hfilter⟩ := ofHeaders_exact hs
  obtain ⟨hnone, hoffers⟩ := (hclient "id" " secret ").mp hpair
  exact ⟨hnone, hoffers, (hfilter hnone).trans hpair⟩

end Gatehouse.Credential
