import Gatehouse.Proofs.Acting
import Gatehouse.Proofs.HeaderText
import Gatehouse.Proofs.Spelling

/-!
# Which headers count

A run reads five headers, of each the first value only, and of the three that hold identifiers no
more than which identifier it is. Header lists that agree on this much (`Http.Alike`) are therefore
handled by one and the same run, whatever else they hold and in whatever order
(`Admission.only_meaning_counts`).
-/

namespace Gatehouse

open Http Authorization

/-! ## Header lists that agree -/

namespace Http

/-- The first value given for a header, in whatever case its name is. -/
def firstGiven (given : List (String × List UInt8)) (name : String) : Option (List UInt8) :=
  (given.find? fun header => Text.lowerAsciiText header.1 == name).map (·.2)

theorem Headers.first?_of_accept {given : List (String × List UInt8)} {hs : Headers}
    (h : Headers.accept given = .ok hs) (name : String) :
    hs.first? name = firstGiven given name := by
  induction given generalizing hs with
  | nil =>
    cases h
    rfl
  | cons header given ih =>
    obtain ⟨title, value⟩ := header
    rw [accept] at h
    split at h
    · cases h
    split at h
    · cases h
    obtain ⟨rest, hrest, rfl⟩ := map_eq_ok.mp h
    have hrest' := ih hrest
    unfold Headers.first? firstGiven at hrest' ⊢
    by_cases hname : Text.lowerAsciiText title = name
    · simp [hname]
    · simpa [hname] using hrest'

/-- Two values of a header are the same, or both name the same identifier. -/
def SameId (value value' : Option (List UInt8)) : Prop :=
  value = value' ∨
    ∃ bytes bytes' id, value = some bytes ∧ value' = some bytes' ∧ Names bytes id ∧ Names bytes' id

/-- Of two header lists the first values that count are the same, up to the spelling of
identifiers. -/
structure Alike (given given' : List (String × List UInt8)) : Prop where
  authorization : firstGiven given Credential.authorizationHeader =
    firstGiven given' Credential.authorizationHeader
  clientId : SameId (firstGiven given Credential.clientIdHeader)
    (firstGiven given' Credential.clientIdHeader)
  clientSecret : firstGiven given Credential.clientSecretHeader =
    firstGiven given' Credential.clientSecretHeader
  delegation : SameId (firstGiven given Admission.delegationHeader)
    (firstGiven given' Admission.delegationHeader)
  provider : SameId (firstGiven given Admission.providerHeader)
    (firstGiven given' Admission.providerHeader)

end Http

/-! ## Credentials that agree -/

namespace Credential

/-- Two credentials are the same, up to the spelling of a client id. -/
inductive Alike : Credential → Credential → Prop
  | same (c : Credential) : Alike c c
  | client {id id' : String} (secret : String) (h : Uuid.parse? id = Uuid.parse? id') :
    Alike (.client id secret) (.client id' secret)

theorem ofHeaders_alike {hs hs' : Headers}
    (hauthorization : hs.first? authorizationHeader = hs'.first? authorizationHeader)
    (hid : SameId (hs.first? clientIdHeader) (hs'.first? clientIdHeader))
    (hsecret : hs.first? clientSecretHeader = hs'.first? clientSecretHeader) :
    Alike (ofHeaders hs) (ofHeaders hs') := by
  unfold ofHeaders Headers.text?
  rw [hauthorization]
  split
  · exact .same _
  · unfold clientPair Headers.text?
    rw [hsecret]
    rcases hid with hid | ⟨bytes, bytes', id, hbytes, hbytes', ⟨text, htext, hparse⟩,
      text', htext', hparse'⟩
    · rw [hid]
      exact .same _
    · rw [hbytes, hbytes', Option.bind_some, Option.bind_some, htext, htext']
      cases (hs'.first? clientSecretHeader).bind textOf? with
      | none => exact .same _
      | some secret => exact .client secret (hparse.trans hparse'.symm)

end Credential

/-! ## Stages that agree -/

namespace Authorization

theorem read_of_names (complain : IdComplaints) {bytes bytes' : List UInt8} {id : Uuid}
    (h : Names bytes id) (h' : Names bytes' id) : complain.read bytes = complain.read bytes' := by
  rw [read_eq_ok.mpr h, read_eq_ok.mpr h']

theorem whenPresent_of_sameId {α : Type} {value value' : Option (List UInt8)}
    {stage : List UInt8 → Stage α} (h : SameId value value')
    (hstage : ∀ bytes bytes' id, Names bytes id → Names bytes' id → stage bytes = stage bytes') :
    whenPresent value stage = whenPresent value' stage := by
  rcases h with rfl | ⟨bytes, bytes', id, rfl, rfl, hnames, hnames'⟩
  · rfl
  · unfold whenPresent
    dsimp only
    rw [hstage bytes bytes' id hnames hnames']

theorem isSome_of_sameId {value value' : Option (List UInt8)} (h : SameId value value') :
    value.isSome = value'.isSome := by
  rcases h with rfl | ⟨bytes, bytes', id, rfl, rfl, -⟩ <;> rfl

theorem resolveDelegation_of_sameId {value value' : Option (List UInt8)} (identity : Identity)
    (h : SameId value value') :
    resolveDelegation identity value = resolveDelegation identity value' := by
  apply whenPresent_of_sameId h
  intro bytes bytes' id hnames hnames'
  unfold attachDelegation idOf
  rw [read_of_names delegationId hnames hnames']

theorem resolveProvider_of_sameId {value value' : Option (List UInt8)} (policy : Policy)
    (identity : Identity) (h : SameId value value') :
    resolveProvider policy identity value = resolveProvider policy identity value' := by
  apply whenPresent_of_sameId h
  intro bytes bytes' id hnames hnames'
  unfold attachProvider idOf
  rw [read_of_names providerId hnames hnames']

end Authorization

namespace Admission

variable {policy : Policy} {hs hs' : Headers} {credential credential' : Credential}

theorem byClient_of_parse {id id' : String} (h : Uuid.parse? id = Uuid.parse? id')
    (secret : String) : Authentication.byClient id secret = Authentication.byClient id' secret := by
  unfold Authentication.byClient Authentication.clientRecord
  rw [h]

theorem authenticate_of_alike (h : credential.Alike credential') (bootstrap : Bool) :
    authenticate credential bootstrap = authenticate credential' bootstrap := by
  cases h with
  | same => rfl
  | client secret hparse =>
    exact congrArg (some <$> ·) (byClient_of_parse hparse secret)

/-- The end of a run shows the kind of a credential and the mark of a token, but no client id. -/
theorem conclude_of_alike (h : credential.Alike credential') :
    conclude credential = conclude credential' := by
  cases h with
  | same => rfl
  | client secret hparse =>
    funext path trail outcome
    rcases outcome with r | (_ | c) <;> rfl

theorem attach_of_sameId (identity : Identity)
    (hdelegation : SameId (hs.first? delegationHeader) (hs'.first? delegationHeader))
    (hprovider : SameId (hs.first? providerHeader) (hs'.first? providerHeader)) :
    attach policy identity hs = attach policy identity hs' := by
  unfold attach
  dsimp only
  rw [isSome_of_sameId hdelegation, isSome_of_sameId hprovider,
    resolveDelegation_of_sameId identity hdelegation,
    resolveProvider_of_sameId policy identity hprovider]

/-- The values that name an identifier are the texts that spell it, up to blanks around it. Header
lists whose first values for the five headers are the same, up to values that name the same
identifier, are handled by the same run: it makes the same calls, and from the same answers it comes
to the same result and the same record. -/
theorem only_meaning_counts (policy : Policy) (request : Request) :
    (∀ value id, Names value id ↔ ∃ text, IsText value text ∧ id.IsSpelling (Text.trim text)) ∧
    ∀ given given' hs hs', Headers.accept given = .ok hs → Headers.accept given' = .ok hs' →
      Alike given given' →
      run policy { request with headers := hs } = run policy { request with headers := hs' } := by
  constructor
  · intro value id
    unfold Names
    simp only [textOf?_eq_some, Uuid.parse?_eq_some]
  · intro given given' hs hs' hgiven hgiven' halike
    have hfirst : ∀ name, hs.first? name = firstGiven given name := Headers.first?_of_accept hgiven
    have hfirst' : ∀ name, hs'.first? name = firstGiven given' name :=
      Headers.first?_of_accept hgiven'
    obtain ⟨hauthorization, hid, hsecret, hdelegation, hprovider⟩ := halike
    simp only [← hfirst, ← hfirst'] at hauthorization hid hsecret hdelegation hprovider
    have hcredential := Credential.ofHeaders_alike hauthorization hid hsecret
    have hattach : ∀ identity, attach policy identity hs = attach policy identity hs' :=
      fun identity => attach_of_sameId identity hdelegation hprovider
    -- A run sees its headers in these three places only.
    unfold run stages authorize
    dsimp only
    rw [conclude_of_alike hcredential, authenticate_of_alike hcredential]
    simp only [hattach]

/-- The delegation is named without hyphens and after `URN:UUID:`; the headers are in another order,
with names in another case, one of them given again and one that nobody reads. -/
theorem only_meaning_counts_respelled :
    let given : List (String × List UInt8) :=
      [("Authorization", "Bearer token".toUTF8.toList),
        ("X-Delegation-Id", " 0000000000000000000000000000000A".toUTF8.toList)]
    let given' : List (String × List UInt8) :=
      [("Accept", "*/*".toUTF8.toList),
        ("x-delegation-id", "URN:UUID:00000000-0000-0000-0000-00000000000a\t".toUTF8.toList),
        ("AUTHORIZATION", "Bearer token".toUTF8.toList),
        ("authorization", "Bearer other".toUTF8.toList)]
    Alike given given' ∧ ∃ hs hs', Headers.accept given = .ok hs ∧ Headers.accept given' = .ok hs' ∧
      ∀ policy path requested bootstrap,
        run policy ⟨hs, path, requested, bootstrap⟩ =
          run policy ⟨hs', path, requested, bootstrap⟩ := by
  intro given given'
  have hnames : Names " 0000000000000000000000000000000A".toUTF8.toList ⟨10⟩ :=
    ⟨" 0000000000000000000000000000000A", by decide +kernel, by decide +kernel⟩
  have hnames' : Names "URN:UUID:00000000-0000-0000-0000-00000000000a\t".toUTF8.toList ⟨10⟩ :=
    ⟨"URN:UUID:00000000-0000-0000-0000-00000000000a\t", by decide +kernel, by decide +kernel⟩
  have halike : Alike given given' :=
    ⟨by decide +kernel, Or.inl (by decide +kernel), by decide +kernel,
      Or.inr ⟨_, _, ⟨10⟩, by decide +kernel, by decide +kernel, hnames, hnames'⟩,
      Or.inl (by decide +kernel)⟩
  have haccept : ∀ l ∈ [given, given'],
      Headers.accept l = .ok (l.map fun header => ⟨Text.lowerAsciiText header.1, header.2⟩) := by
    decide +kernel
  have hgiven := haccept given (by simp)
  have hgiven' := haccept given' (by simp)
  refine ⟨halike, _, _, hgiven, hgiven', fun policy path requested bootstrap => ?_⟩
  obtain ⟨-, hrun⟩ := only_meaning_counts policy ⟨[], path, requested, bootstrap⟩
  exact hrun given given' _ _ hgiven hgiven' halike

end Admission

end Gatehouse
