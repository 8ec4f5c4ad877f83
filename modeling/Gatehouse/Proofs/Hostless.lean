import Gatehouse.Proofs.Backends
import Gatehouse.Proofs.Isolation
import Gatehouse.Service

/-!
# Addresses without a host

An address of slashes alone, or an empty one, names no host. All of them are compared in the same
form, which no other address has (`normalise_eq_empty`). Settings are accepted unless their trust
domain is blank, and a slash is not blank. So there are two cases: where the trust domain has a
host, rows of delegations on addresses without one make no difference to a caller that names a
provider; where it is made of slashes, each of them lets its delegate act for its provider
(`hostless_exact`).
-/

namespace Gatehouse

open Authorization Provider Store

/-! ## Comparing addresses without a host -/

namespace ServerUrl

variable {a b url : String}

/-- The address names no host: there is nothing in it but slashes. -/
def IsHostless (url : String) : Prop := ∀ c ∈ url.toList, c = '/'

instance : DecidablePred IsHostless := fun url =>
  decidable_of_iff (url.toList.all (· == '/') = true) (by simp [IsHostless])

theorem isHostless_iff : IsHostless url ↔ ∃ n, url = slashes n := by
  constructor
  · intro h
    refine ⟨url.toList.length, ?_⟩
    unfold slashes
    rw [← List.eq_replicate_length.mpr h, String.ofList_toList]
  · rintro ⟨n, rfl⟩ c hc
    unfold slashes at hc
    rw [String.toList_ofList] at hc
    exact List.eq_of_mem_replicate hc

/-- Nothing is left of an address in the form in which it is compared just if it has no host. -/
theorem normalise_eq_empty : normalise url = "" ↔ IsHostless url := by
  have hempty : ∀ l : List Char, String.ofList l = "" ↔ l = [] := fun l => by
    rw [← String.ofList_nil, String.ofList_inj]
  unfold normalise Text.lowercase Text.trimEndWhile IsHostless
  rw [hempty, Text.lowerFrom_eq_nil, String.toList_ofList, Text.dropEndWhile_eq_nil]
  simp only [beq_iff_eq]

theorem isHostless_congr (h : same a b = true) : IsHostless a ↔ IsHostless b := by
  rw [← normalise_eq_empty, ← normalise_eq_empty, same_iff.mp h]

theorem same_eq_false (h : ¬ (IsHostless a ↔ IsHostless b)) : same a b = false :=
  Bool.eq_false_iff.mpr fun hsame => h (isHostless_congr hsame)

theorem IsHostless.same (ha : IsHostless a) (hb : IsHostless b) : same a b = true := by
  rw [same_iff, normalise_eq_empty.mpr ha, normalise_eq_empty.mpr hb]

end ServerUrl

open ServerUrl

/-! ## Accepted settings -/

namespace Settings

variable {s : Settings}

theorem complaint?_eq_none : s.complaint? = none ↔
    Text.isAllBlank s.auth.trustDomain = false ∧ Text.isAllBlank s.oidc.issuer = false ∧
      s.database.maxConnections ≠ 0 ∧ s.secrets.maxConcurrent ≠ 0 := by
  have hdemand : ∀ (c : Prop) [Decidable c] (complaint : Complaint) (rest : Option Complaint),
      (if c then some complaint else rest) = none ↔ ¬ c ∧ rest = none := by
    intro c _ complaint rest
    by_cases hc : c
    · simp [hc]
    · simp [hc]
  unfold complaint?
  rw [hdemand, hdemand, hdemand, hdemand, and_iff_left rfl, Bool.not_eq_true, Bool.not_eq_true]

/-- The trust domain of accepted settings has at least one slash in the place of a host. -/
theorem isHostless_trustDomain (accepted : s.complaint? = none) :
    IsHostless s.auth.trustDomain ↔ ∃ n, s.auth.trustDomain = slashes (n + 1) := by
  rw [isHostless_iff]
  constructor
  · rintro ⟨n, hn⟩
    cases n with
    | zero =>
      have hblank := (complaint?_eq_none.mp accepted).1
      rw [hn] at hblank
      cases hblank
    | succ n => exact ⟨n, hn⟩
  · rintro ⟨n, hn⟩
    exact ⟨n + 1, hn⟩

/-- Any number of slashes will do. -/
theorem accepted_slashes (accepted : s.complaint? = none) (n : Nat) :
    ({ s with auth := { s.auth with trustDomain := slashes (n + 1) } } : Settings).complaint? =
      none := by
  obtain ⟨-, hrest⟩ := complaint?_eq_none.mp accepted
  refine complaint?_eq_none.mpr ⟨?_, hrest⟩
  unfold Text.isAllBlank slashes
  rw [String.toList_ofList, List.replicate_succ, List.all_cons]
  exact Bool.and_eq_false_imp.mpr fun h => nomatch h

end Settings

/-! ## Leaving out rows of delegations -/

namespace Store.Memory

variable {m : Memory} {keep : DelegationRow → Bool} {trustDomain : String}

/-- The store without the rows of delegations that are not kept. -/
def keeping (m : Memory) (keep : DelegationRow → Bool) : Memory :=
  { m with
    delegations := m.delegations.filter keep
    delegations_nodup := (List.filter_sublist.map _).nodup m.delegations_nodup }

theorem mem_delegations_keeping {row : DelegationRow} :
    row ∈ (m.keeping keep).delegations ↔ row ∈ m.delegations ∧ keep row = true := List.mem_filter

/-- Rows that are not on the trust domain may be left out when a provider's grant is looked for. -/
theorem providerGrant_keeping
    (h : ∀ row, keep row = false → ServerUrl.same row.grant.url trustDomain = false)
    (delegate provider : Uuid) :
    (m.keeping keep).providerGrant delegate provider trustDomain =
      m.providerGrant delegate provider trustDomain := by
  unfold providerGrant activeGrants keeping
  rw [List.filter_map, List.filter_map, List.filter_filter, List.filter_filter,
    List.filter_filter]
  congr 2
  refine List.filter_congr fun row _ => ?_
  cases hkeep : keep row with
  | true => simp
  | false => simp [h row hkeep]

end Store.Memory

/-! ## Naming a provider -/

namespace Platform

variable {p : Platform}

/-- The platform without the rows of delegations that are not kept. -/
def keeping (p : Platform) (keep : DelegationRow → Bool) : Platform :=
  p.withMemory (p.memory.keeping keep)

/-- Without some rows, the store takes as long and is as available, so that a call for which it
finds the same is answered alike. -/
theorem storeAnswer_keeping {keep : DelegationRow → Bool} {c : StoreCall}
    (hfind : (p.memory.keeping keep).find c = p.memory.find c) :
    (p.keeping keep).storeAnswer c = p.storeAnswer c := by
  have hmemory : (p.keeping keep).memory.find c = p.memory.find c := hfind
  unfold storeAnswer Memory.answer
  rw [hmemory]
  rfl

end Platform

namespace Authorization

variable {p : Platform} {identity : Identity} {value : List UInt8} {keep : DelegationRow → Bool}

/-- Rows that are not on the trust domain make no difference to a caller that names a provider. -/
theorem resolveProvider_keeping
    (h : ∀ row, keep row = false → ServerUrl.same row.grant.url p.policy.trustDomain = false)
    (identity : Identity) (header : Option (List UInt8)) :
    (resolveProvider p.policy identity header).answered (p.keeping keep).answer =
      (resolveProvider p.policy identity header).answered p.answer := by
  cases header with
  | none => rfl
  | some value =>
    have hanswer : ∀ c ∈ Stage.calls p.answer (attachProvider p.policy identity value),
        (p.keeping keep).answer c = p.answer c := by
      intro c hc
      obtain ⟨provider, -, rfl⟩ := mem_calls_attachProvider.mp hc
      exact Platform.storeAnswer_keeping (Memory.providerGrant_keeping h identity.user provider)
    have houtcome : Stage.outcome (p.keeping keep).answer
        (attachProvider p.policy identity value) =
          Stage.outcome p.answer (attachProvider p.policy identity value) :=
      (Dialogue.answered_congr hanswer).1
    unfold resolveProvider
    rw [answered_whenPresent, answered_whenPresent, houtcome]

/-- An active row on the trust domain lets its delegate act for its provider. -/
theorem resolveProvider_of_row (h : p.StoreAnswers) {g : DelegationGrant}
    (hmem : ⟨g, true⟩ ∈ p.memory.delegations) (hrole : g.role = .provider)
    (hsame : ServerUrl.same g.url p.policy.trustDomain = true)
    (huser : identity.user = g.delegate) (hid : Names value g.delegator) :
    (resolveProvider p.policy identity (some value)).answered p.answer =
      .attached ⟨g.delegator, p.policy.trustDomain⟩ := by
  have hattached : Stage.outcome p.answer (attachProvider p.policy identity value) =
      .ok ⟨g.delegator, p.policy.trustDomain⟩ :=
    (attachProvider_eq_ok h).mpr
      ⟨hid, rfl, g, hmem, huser.symm, rfl, hrole, same_iff.mp hsame⟩
  unfold resolveProvider
  rw [answered_whenPresent, hattached]

/-- With no row on the trust domain, a caller is refused whichever provider it names. -/
theorem resolveProvider_of_no_row (h : p.StoreAnswers)
    (hnone : ∀ row ∈ p.memory.delegations,
      ServerUrl.same row.grant.url p.policy.trustDomain = false)
    {provider : Uuid} (hid : Names value provider) :
    (resolveProvider p.policy identity (some value)).answered p.answer =
      .failed ActingFault.notForProvider.failure := by
  have hgrant : p.memory.providerGrant identity.user provider p.policy.trustDomain = none := by
    refine Option.not_isSome_iff_eq_none.mp fun hsome => ?_
    obtain ⟨g, hmem, -, -, -, hsame⟩ := Memory.isSome_providerGrant.mp hsome
    exact Bool.false_ne_true ((hnone _ hmem).symm.trans (same_iff.mpr hsame))
  have hrefused : Stage.outcome p.answer (attachProvider p.policy identity value) =
      .error ⟨ActingFault.notForProvider.failure, none⟩ := by
    unfold attachProvider
    rw [Stage.outcome_bind, outcome_idOf_eq_ok.mpr hid]
    refine (outcome_providerGrant_bind h identity.user provider p.policy.trustDomain _).trans ?_
    rw [hgrant]
    rfl
  unfold resolveProvider
  rw [answered_whenPresent, hrefused]

/-! ## Rows without a host -/

/-- The resource server of a delegation has a host. -/
def hasHost (row : DelegationRow) : Bool := !decide (IsHostless row.grant.url)

/-- Settings that are accepted have a trust domain with a host, or one of slashes, of which any
number is accepted. Where it has a host, rows of delegations on addresses without one may be there
or not: whoever calls and whichever provider is named, the same comes of it. Where it has none, each
of them that is active lets its delegate act for its provider, who is refused without them. A grant
that a database finds is on an address without a host in the second case, and in that case alone. -/
theorem hostless_exact (s : Settings) (accepted : s.complaint? = none) :
    (IsHostless s.auth.trustDomain ↔ ∃ n, s.auth.trustDomain = slashes (n + 1)) ∧
    (∀ n, ({ s with auth := { s.auth with trustDomain := slashes (n + 1) } } :
      Settings).complaint? = none) ∧
    ∀ (d : Discovery) (p : Platform), p.policy = (Service.ofSettings s d).policy →
      (¬ IsHostless s.auth.trustDomain → ∀ keep : DelegationRow → Bool,
        (∀ row, keep row = false → IsHostless row.grant.url) → ∀ identity header,
          (resolveProvider p.policy identity header).answered (p.keeping keep).answer =
            (resolveProvider p.policy identity header).answered p.answer) ∧
      (IsHostless s.auth.trustDomain → p.StoreAnswers →
        ∀ g : DelegationGrant, ⟨g, true⟩ ∈ p.memory.delegations → IsHostless g.url →
          g.role = .provider → ∀ identity value, identity.user = g.delegate →
            Names value g.delegator →
          (resolveProvider p.policy identity (some value)).answered p.answer =
            .attached ⟨g.delegator, s.auth.trustDomain⟩ ∧
          (resolveProvider p.policy identity (some value)).answered (p.keeping hasHost).answer =
            .failed ActingFault.notForProvider.failure) ∧
      ∀ (t : Tables) (database : Statement → Reply), t.RepliedBy database →
        ∀ delegate provider g,
          (Relational.providerGrant delegate provider s.auth.trustDomain).answered database =
            .ok (some g) →
          (IsHostless g.url ↔ IsHostless s.auth.trustDomain) := by
  refine ⟨Settings.isHostless_trustDomain accepted, Settings.accepted_slashes accepted, ?_⟩
  intro d p hpolicy
  have hdomain : s.auth.trustDomain = p.policy.trustDomain := by
    rw [hpolicy]
    rfl
  rw [hdomain]
  refine ⟨?_, ?_, ?_⟩
  · intro hhost keep hkeep identity header
    -- A row that is left out has no host, so it is not on a trust domain that has one.
    refine resolveProvider_keeping (fun row hrow => ?_) identity header
    exact same_eq_false fun hiff => hhost (hiff.mp (hkeep row hrow))
  · intro hhostless hstore g hmem hurl hrole identity value huser hid
    refine ⟨resolveProvider_of_row hstore hmem hrole (hurl.same hhostless) huser hid, ?_⟩
    -- What is left has a host, so none of it is on the trust domain.
    have hnone : ∀ row ∈ (p.keeping hasHost).memory.delegations,
        ServerUrl.same row.grant.url p.policy.trustDomain = false := by
      intro row hrow
      have hhost : ¬ IsHostless row.grant.url := by
        simpa [hasHost] using (Memory.mem_delegations_keeping.mp hrow).2
      exact same_eq_false fun hiff => hhost (hiff.mpr hhostless)
    exact resolveProvider_of_no_row (p := p.keeping hasHost) hstore hnone hid
  · intro t database hreplied delegate provider g hfound
    exact isHostless_congr (Relational.same_of_providerGrant hreplied hfound)

/-- A service with these settings. Its store has one row: the provider 5 has lent its role to the
user 7 on an address. -/
def lendingOn (s : Settings) (url : String) : Platform :=
  { Admission.lendingWith .provider url with policy := (Service.ofSettings s ⟨"", "", ""⟩).policy }

/-- A header that names the provider 5. -/
def providerFive : List UInt8 := "00000000-0000-0000-0000-000000000005".toUTF8.toList

theorem names_providerFive : Names providerFive ⟨5⟩ :=
  ⟨"00000000-0000-0000-0000-000000000005", by cbv, by cbv⟩

/-- What comes of naming the provider 5 as the user 7. -/
def actingForFive (p : Platform) : StageOutcome ProviderScope :=
  (resolveProvider p.policy (.fresh ⟨7⟩ none) (some providerFive)).answered p.answer

theorem actingForFive_keeping (s : Settings) {url : String} (h : IsHostless url) :
    actingForFive ((lendingOn s url).keeping hasHost) =
      .failed ActingFault.notForProvider.failure := by
  have hrows : ((lendingOn s url).keeping hasHost).memory.delegations = [] :=
    List.filter_eq_nil_iff.mpr fun row hrow => by
      rw [List.mem_singleton.mp hrow]
      simp [hasHost, h]
  refine resolveProvider_of_no_row ⟨rfl, Nat.zero_le _⟩ ?_ names_providerFive
  rw [hrows]
  exact List.forall_mem_nil _

theorem hostless_exact_lent :
    let hosted : Settings := { auth := { trustDomain := "https://as.example" } }
    let slashed : Settings := { auth := { trustDomain := "//" } }
    let refused : StageOutcome ProviderScope := .failed ActingFault.notForProvider.failure
    hosted.complaint? = none ∧ slashed.complaint? = none ∧
    actingForFive ((lendingOn hosted "///").keeping hasHost) = refused ∧
    actingForFive (lendingOn hosted "///") = refused ∧
    actingForFive ((lendingOn slashed "").keeping hasHost) = refused ∧
    actingForFive (lendingOn slashed "") = .attached ⟨⟨5⟩, "//"⟩ ∧
    ∃ g, (Relational.providerGrant ⟨7⟩ ⟨5⟩ "https://as.example").answered lendingTables.reply =
      .ok (some g) ∧ ¬ IsHostless g.url := by
  intro hosted slashed refused
  have hhosted : hosted.complaint? = none := by decide +kernel
  have hslashed : slashed.complaint? = none := by decide +kernel
  have hhost : ¬ IsHostless hosted.auth.trustDomain := by decide +kernel
  have hhostless : IsHostless slashed.auth.trustDomain := by decide +kernel
  obtain ⟨-, -, hplatform⟩ := hostless_exact hosted hhosted
  obtain ⟨hsame, -, hdatabase⟩ := hplatform ⟨"", "", ""⟩ (lendingOn hosted "///") rfl
  have hrefused : actingForFive ((lendingOn hosted "///").keeping hasHost) = refused :=
    actingForFive_keeping hosted (by decide +kernel)
  have hkept : actingForFive ((lendingOn hosted "///").keeping hasHost) =
      actingForFive (lendingOn hosted "///") :=
    hsame hhost hasHost (fun row hrow => by simpa [hasHost] using hrow) _ _
  obtain ⟨-, -, hplatform'⟩ := hostless_exact slashed hslashed
  obtain ⟨-, hrows, -⟩ := hplatform' ⟨"", "", ""⟩ (lendingOn slashed "") rfl
  obtain ⟨hattached, hwithout⟩ := hrows hhostless ⟨rfl, Nat.zero_le _⟩
    ⟨⟨1⟩, ⟨5⟩, ⟨7⟩, .provider, ""⟩ List.mem_cons_self (by decide +kernel) rfl (.fresh ⟨7⟩ none)
      providerFive rfl names_providerFive
  have hrow : Relational.IsProviderGrant lendingTables ⟨7⟩ ⟨5⟩ "https://as.example"
      ⟨⟨3⟩, ⟨5⟩, ⟨7⟩, "PROVIDER", ⟨10⟩, "ACTIVE"⟩ ⟨⟨10⟩, "https://AS.example/"⟩ :=
    ⟨by decide, rfl, rfl, rfl, rfl, rfl, by decide +kernel⟩
  have hfound : ∃ g, (Relational.providerGrant ⟨7⟩ ⟨5⟩ "https://as.example").answered
      lendingTables.reply = .ok (some g) := by
    rcases Relational.providerGrant_cases lendingTables.repliedBy_reply ⟨7⟩ ⟨5⟩
      "https://as.example" with ⟨-, hnone⟩ | ⟨d, server, -, hsome, -⟩
    · exact absurd hrow (hnone _ _)
    · exact ⟨_, hsome⟩
  obtain ⟨g, hg⟩ := hfound
  refine ⟨hhosted, hslashed, hrefused, hkept ▸ hrefused, hwithout, hattached, g, hg, ?_⟩
  rw [hdatabase lendingTables lendingTables.reply lendingTables.repliedBy_reply ⟨7⟩ ⟨5⟩ g hg]
  exact hhost

/-- One slash is accepted, and the row on the empty address lets the user 7 act for the provider. -/
theorem hostless_row_attached :
    let s : Settings := { auth := { trustDomain := "/" } }
    s.complaint? = none ∧ IsHostless "" ∧
    (lendingOn s "").memory.delegations = [⟨⟨⟨1⟩, ⟨5⟩, ⟨7⟩, .provider, ""⟩, true⟩] ∧
    actingForFive (lendingOn s "") = .attached ⟨⟨5⟩, "/"⟩ ∧
    actingForFive ((lendingOn s "").keeping hasHost) =
      .failed ActingFault.notForProvider.failure := by
  intro s
  have hattached : actingForFive (lendingOn s "") = .attached ⟨⟨5⟩, "/"⟩ :=
    resolveProvider_of_row (p := lendingOn s "") (g := ⟨⟨1⟩, ⟨5⟩, ⟨7⟩, .provider, ""⟩)
      ⟨rfl, Nat.zero_le _⟩ List.mem_cons_self rfl (by decide +kernel) rfl names_providerFive
  exact ⟨by decide +kernel, by decide +kernel, rfl, hattached,
    actingForFive_keeping s (by decide +kernel)⟩

end Authorization

end Gatehouse
