import Gatehouse.Proofs.Json
import Gatehouse.Token.Check

/-!
# What a token shows that is accepted

The checks of a token one by one: how its text comes apart, what its header and its payload say,
whose signature it carries, and what the demands of a provider come to. They are put together in
`check_iff`.
-/

namespace Gatehouse.Token

open Json Encoding

/-! ## Parts -/

theorem splitLast?_eq_some_iff {α : Type} {p : α → Bool} {l front back : List α} :
    splitLast? p l = some (front, back) ↔
      ∃ x, p x = true ∧ l = front ++ x :: back ∧ ∀ y ∈ back, p y = false := by
  unfold splitLast?
  constructor
  · intro h
    split at h
    · cases h
    · next x rest hdrop =>
      cases h
      have hl : l = rest.reverse ++ x :: (l.reverse.takeWhile (!p ·)).reverse := by
        have h := List.takeWhile_append_dropWhile (p := fun a => !p a) (l := l.reverse)
        rw [hdrop] at h
        have hrev := congrArg List.reverse h
        simpa using hrev.symm
      refine ⟨x, ?_, hl, fun y hy => ?_⟩
      · have hhead := List.head?_dropWhile_not (fun a => !p a) l.reverse
        rw [hdrop] at hhead
        simpa using hhead
      · have hall := List.all_eq_true.mp List.all_takeWhile y (List.mem_reverse.mp hy)
        simpa using hall
  · rintro ⟨x, hx, rfl, hback⟩
    have hnone : ∀ y ∈ back.reverse, (!p y) = true := by
      intro y hy
      rw [hback y (List.mem_reverse.mp hy)]
      rfl
    have hstop : (!p x) = false := by rw [hx]; rfl
    have hrev : (front ++ x :: back).reverse = back.reverse ++ x :: front.reverse := by simp
    rw [hrev, List.dropWhile_append_of_pos hnone, List.takeWhile_append_of_pos hnone,
      List.dropWhile_cons_of_neg (by simp [hstop]), List.takeWhile_cons_of_neg (by simp [hstop])]
    simp

/-- The text of a token is its parts with dots between them; only the header may have further
dots. -/
def Parts.Spell (parts : Parts) (token : String) : Prop :=
  token.toList = parts.header ++ '.' :: (parts.payload ++ '.' :: parts.signature) ∧
    '.' ∉ parts.payload ∧ '.' ∉ parts.signature

theorem ofText?_eq_some_iff {token : String} {parts : Parts} :
    Parts.ofText? token = some parts ↔ parts.Spell token := by
  have hdots : ∀ l : List Char, (∀ y ∈ l, (y == '.') = false) ↔ '.' ∉ l := fun l =>
    ⟨fun h hdot => by simpa using h '.' hdot, fun h y hy => by
      rw [beq_eq_false_iff_ne]
      rintro rfl
      exact h hy⟩
  unfold Parts.ofText?
  constructor
  · intro h
    obtain ⟨⟨front, signature⟩, hlast, h⟩ := Option.bind_eq_some_iff.mp h
    obtain ⟨⟨header, payload⟩, hfirst, ⟨⟩⟩ := Option.bind_eq_some_iff.mp h
    obtain ⟨x, hx, htoken, hsignature⟩ := splitLast?_eq_some_iff.mp hlast
    obtain ⟨y, hy, rfl, hpayload⟩ := splitLast?_eq_some_iff.mp hfirst
    rw [beq_iff_eq] at hx hy
    subst hx hy
    exact ⟨by rw [htoken, List.append_assoc]; rfl, (hdots _).mp hpayload, (hdots _).mp hsignature⟩
  · rintro ⟨htoken, hpayload, hsignature⟩
    have hlast : splitLast? (· == '.') token.toList =
        some (parts.header ++ '.' :: parts.payload, parts.signature) :=
      splitLast?_eq_some_iff.mpr ⟨'.', rfl, by rw [htoken, List.append_assoc]; rfl,
        (hdots _).mpr hsignature⟩
    have hfirst : splitLast? (· == '.') (parts.header ++ '.' :: parts.payload) =
        some (parts.header, parts.payload) :=
      splitLast?_eq_some_iff.mpr ⟨'.', rfl, rfl, (hdots _).mpr hpayload⟩
    rw [hlast, Option.bind_eq_bind, Option.bind_some]
    dsimp only
    rw [hfirst]
    rfl

/-- A part of a token is the base 64 form of an object with these members. -/
def EncodesObject (part : List Char) (ms : Members) : Prop :=
  ∃ bytes, Base64.url.decode? part = some bytes ∧ Spells bytes (.object ms .closed)

theorem EncodesObject.unique {part : List Char} {ms ms' : Members} (h : EncodesObject part ms)
    (h' : EncodesObject part ms') : ms = ms' := by
  obtain ⟨bytes, hbytes, rest, hread, -⟩ := h
  obtain ⟨bytes', hbytes', rest', hread', -⟩ := h'
  cases hbytes.symm.trans hbytes'
  cases hread.symm.trans hread'
  rfl

/-- The payload of a token has a member of a name, and no other one of that name. -/
def HasClaim (token name : String) (d : Draft) : Prop :=
  ∃ parts : Parts, ∃ ms, parts.Spell token ∧ EncodesObject parts.payload ms ∧ HasMember ms name d

/-- The claims of a token are the members of its payload. -/
theorem hasClaim_iff {token name : String} {parts : Parts} {ms : Members} {d : Draft}
    (hparts : parts.Spell token) (hms : EncodesObject parts.payload ms) :
    HasClaim token name d ↔ HasMember ms name d := by
  constructor
  · rintro ⟨parts', ms', hparts', hms', hd⟩
    cases (ofText?_eq_some_iff.mpr hparts).symm.trans (ofText?_eq_some_iff.mpr hparts')
    rwa [hms.unique hms']
  · intro hd
    exact ⟨parts, ms, hparts, hms, hd⟩

/-! ## Headers -/

theorem ofName?_eq_some {s : String} {a : Algorithm} (h : Algorithm.ofName? s = some a) :
    a.name = s := by
  unfold Algorithm.ofName? at h
  simpa using List.find?_some h

/-- A header says by which algorithm a token is signed, and with which key if any. -/
def HeaderSays (ms : Members) (header : Header) : Prop :=
  (∃ d, HasMember ms "alg" d ∧ d.Names header.algorithm.name) ∧
    ∀ id, header.keyId = some id → ∃ d, HasMember ms "kid" d ∧ d.Says id

theorem Header.decoder_ok {d : Draft} {header : Header} (h : Header.decoder d = .ok header) :
    ∃ ms, d = .object ms .closed ∧ HeaderSays ms header := by
  unfold Header.decoder at h
  split at h
  · next ms ending =>
    obtain ⟨-, -, h⟩ := bind_eq_ok.mp h
    obtain ⟨out, hout, h⟩ := bind_eq_ok.mp h
    obtain ⟨algorithm, halgorithm, h⟩ := bind_eq_ok.mp h
    obtain ⟨id, hid, ⟨⟩⟩ := bind_eq_ok.mp h
    obtain ⟨rfl, hmember⟩ := record_ok hout
    refine ⟨ms, rfl, ?_, ?_⟩
    · obtain ⟨d, hd, hname⟩ := required_ok halgorithm
      obtain ⟨s, hs, hnamed⟩ := oneOf_ok hname
      have hfield : Field.required "alg" (oneOf Algorithm.ofName?) ∈ fields := by simp [fields]
      exact ⟨d, (hmember "alg" d ⟨_, hfield, rfl⟩).mp hd, by rw [ofName?_eq_some hnamed]; exact hs⟩
    · rintro id rfl
      obtain ⟨d, hd, htext⟩ := present_optional_ok hid
      have hfield : Field.optional "kid" text ∈ fields := by simp [fields]
      exact ⟨d, (hmember "kid" d ⟨_, hfield, rfl⟩).mp hd, text_eq_ok.mp htext⟩
  · cases h

theorem Header.ofPart_ok {part : List Char} {header : Header}
    (h : Header.ofPart part = .ok header) :
    ∃ ms, EncodesObject part ms ∧ HeaderSays ms header := by
  unfold Header.ofPart at h
  split at h
  · cases h
  · next bytes hbytes =>
    obtain ⟨d, hspells, hd⟩ := decodeBytes_eq_ok.mp (mapError_eq_ok.mp h)
    obtain ⟨ms, rfl, hsays⟩ := Header.decoder_ok hd
    exact ⟨ms, ⟨bytes, hbytes, hspells⟩, hsays⟩

/-- A token comes apart when its text does and its header can be read. -/
theorem takeApart_eq_ok {token : String} {parts : Parts} {header : Header} :
    takeApart token = .ok (parts, header) ↔
      Parts.ofText? token = some parts ∧ Header.ofPart parts.header = .ok header := by
  unfold takeApart
  cases Parts.ofText? token with
  | none => simp
  | some parts' =>
    simp only [map_eq_ok, Prod.mk.injEq, Option.some.injEq]
    constructor
    · rintro ⟨header', hheader, rfl, rfl⟩
      exact ⟨rfl, hheader⟩
    · rintro ⟨rfl, hheader⟩
      exact ⟨header, hheader, rfl, rfl⟩

/-! ## Claims -/

/-- A payload says whose a token is, until when it is good, and who issued it. -/
def PayloadSays (ms : Members) (c : Claims) : Prop :=
  (∃ d, HasMember ms "sub" d ∧ d.Says c.subject) ∧
    (∃ d, HasMember ms "exp" d ∧ d.Counts c.expiry) ∧
      ∀ names, c.issuers = some names → ∀ s ∈ names, ∃ d, HasMember ms "iss" d ∧ d.Lists s

/-- Claims are what the members of a payload say. A start or a list of texts is claimed when the
member is of the right shape, and only then. -/
structure Claims.Reads (c : Claims) (ms : Members) : Prop where
  subject : ∃ d, HasMember ms "sub" d ∧ d.Says c.subject
  expiry : ∃ d, HasMember ms "exp" d ∧ d.Counts c.expiry
  start : ∀ n, c.start = some n ↔
    ∃ d, HasMember ms "nbf" d ∧ d.Counts n ∧ n < ValidatedToken.expiryBound
  issuers : ∀ names, c.issuers = some names ↔ ∃ d, HasMember ms "iss" d ∧ d.Tells names
  audiences : ∀ names, c.audiences = some names ↔ ∃ d, HasMember ms "aud" d ∧ d.Tells names

theorem Claims.Reads.says {c : Claims} {ms : Members} (h : c.Reads ms) : PayloadSays ms c := by
  refine ⟨h.subject, h.expiry, fun names hnames s hs => ?_⟩
  obtain ⟨d, hd, htells⟩ := (h.issuers names).mp hnames
  exact ⟨d, hd, htells.lists hs⟩

theorem texts?_eq_some_iff {d : Draft} {o : Option (List String)} (h : Claims.texts? d = .ok o)
    (names : List String) : o = some names ↔ d.Tells names := by
  unfold Claims.texts? at h
  split at h
  · cases h
    constructor
    · rintro ⟨⟩
    · rintro (⟨s, -, ending, hs⟩ | ⟨ds, hd, -⟩)
      · cases hs
      · cases hd
  · obtain ⟨-, -, h⟩ := bind_eq_ok.mp h
    split at h
    · next s ending _ _ =>
      cases h
      constructor
      · rintro ⟨⟩
        exact Or.inl ⟨s, rfl, ending, rfl⟩
      · rintro (⟨s', rfl, ending', hs⟩ | ⟨ds, hd, -⟩)
        · cases hs
          rfl
        · cases hd
    · next hnottext =>
      -- What is no text has to be an array of texts, or counts as none.
      cases h
      have harray : d.Tells names ↔ list text d = .ok names := by
        rw [list_text_eq_ok]
        constructor
        · rintro (⟨s, -, ending, rfl⟩ | hds)
          · exact absurd rfl (hnottext s ending)
          · exact hds
        · exact Or.inr
      rw [harray]
      cases list text d with
      | error fault => simp [Except.toOption]
      | ok l => simp [Except.toOption]

theorem time?_eq_some_iff {d : Draft} {o : Option Nat} (h : Claims.time? d = .ok o) (n : Nat) :
    o = some n ↔ d.Counts n ∧ n < ValidatedToken.expiryBound := by
  rw [← natBelow_eq_ok]
  unfold Claims.time? at h
  split at h
  · cases h
  · cases h
  · next m =>
    cases h
    cases natBelow ValidatedToken.expiryBound (.number m) with
    | error fault => simp [Except.toOption]
    | ok l => simp [Except.toOption]
  · next hnotnumber =>
    obtain ⟨-, -, ⟨⟩⟩ := bind_eq_ok.mp h
    constructor
    · rintro ⟨⟩
    · intro hcounts
      obtain ⟨⟨scale, rfl⟩, -⟩ := natBelow_eq_ok.mp hcounts
      exact absurd rfl (hnotnumber _)

theorem Claims.decoder_ok {d : Draft} {c : Claims} (h : Claims.decoder d = .ok c) :
    ∃ ms, d = .object ms .closed ∧ c.Reads ms := by
  unfold Claims.decoder at h
  split at h
  · next ms ending =>
    obtain ⟨out, hout, h⟩ := bind_eq_ok.mp h
    obtain ⟨subject, hsubject, h⟩ := bind_eq_ok.mp h
    obtain ⟨expiry, hexpiry, h⟩ := bind_eq_ok.mp h
    obtain ⟨start, hstart, h⟩ := bind_eq_ok.mp h
    obtain ⟨issuers, hissuers, h⟩ := bind_eq_ok.mp h
    obtain ⟨audiences, haudiences, ⟨⟩⟩ := bind_eq_ok.mp h
    obtain ⟨rfl, hmember⟩ := record_ok hout
    have hfield : ∀ f ∈ fields, ∀ d, out.lookup f.name = some d ↔ HasMember ms f.name d :=
      fun f hf d => hmember f.name d ⟨f, hf, rfl⟩
    simp only [fields, List.forall_mem_cons, Field.required, Field.defaulted] at hfield
    obtain ⟨hsub, hexp, hnbf, hiss, haud, -⟩ := hfield
    refine ⟨ms, rfl, ?_, ?_, ?_, ?_, ?_⟩
    · obtain ⟨d, hd, htext⟩ := required_ok hsubject
      exact ⟨d, (hsub d).mp hd, text_eq_ok.mp htext⟩
    · obtain ⟨d, hd, hnumber⟩ := required_ok hexpiry
      exact ⟨d, (hexp d).mp hd, (natBelow_eq_ok.mp hnumber).1⟩
    · exact withDefault_none_iff hnbf (fun d o => time?_eq_some_iff) hstart
    · exact withDefault_none_iff hiss (fun d o => texts?_eq_some_iff) hissuers
    · exact withDefault_none_iff haud (fun d o => texts?_eq_some_iff) haudiences
  · cases h

theorem claimsOf_reads {parts : Parts} {c : Claims} (h : claimsOf parts = .ok c) :
    ∃ ms, EncodesObject parts.payload ms ∧ c.Reads ms := by
  unfold claimsOf at h
  split at h
  · cases h
  · next bytes hbytes =>
    obtain ⟨d, hspells, hd⟩ := decodeBytes_eq_ok.mp (mapError_eq_ok.mp h)
    obtain ⟨ms, rfl, hreads⟩ := Claims.decoder_ok hd
    exact ⟨ms, ⟨bytes, hbytes, hspells⟩, hreads⟩

theorem claimsOf_ok {parts : Parts} {c : Claims} (h : claimsOf parts = .ok c) :
    ∃ ms, EncodesObject parts.payload ms ∧ PayloadSays ms c := by
  obtain ⟨ms, hencodes, hreads⟩ := claimsOf_reads h
  exact ⟨ms, hencodes, hreads.says⟩

/-! ## Validations -/

/-- What claims have to be like to pass a validation at a second. -/
structure Validation.Passes (v : Validation) (now : Nat) (c : Claims) : Prop where
  carries : ∀ name ∈ v.required, c.carry name = true
  unexpired : v.checksExpiry = true → now ≤ c.expiry + v.leeway
  started : v.checksStart = true → ∀ start, c.start = some start → start ≤ now + v.leeway
  issuer : ∀ issuers, v.issuers = some issuers → agrees issuers c.issuers = true
  audience : v.checksAudience = true → agrees v.audiences c.audiences = true

theorem Validation.check_eq_ok {v : Validation} {now : Nat} {c : Claims} :
    v.check now c = .ok () ↔ v.Passes now c := by
  unfold Validation.check
  constructor
  · intro h
    split at h
    · cases h
    next hfound =>
    split at h
    · cases h
    next hexpiry =>
    split at h
    · cases h
    next hstart =>
    split at h
    · cases h
    next hissuers =>
    split at h
    · cases h
    next haudience =>
    constructor
    · intro name hname
      simpa using List.find?_eq_none.mp hfound name hname
    · intro hchecks
      rw [hchecks, Bool.true_and, decide_eq_true_eq] at hexpiry
      omega
    · rintro hchecks start hsome
      rw [hchecks, hsome] at hstart
      simpa using hstart
    · intro issuers hsome
      rw [hsome] at hissuers
      simpa using hissuers
    · intro hchecks
      rw [hchecks] at haudience
      simpa using haudience
  · intro h
    have hfound : v.required.find? (!c.carry ·) = none := by
      rw [List.find?_eq_none]
      intro name hname
      simp [h.carries name hname]
    have hexpiry : (v.checksExpiry && c.expiry < now - v.leeway) = false := by
      cases hchecks : v.checksExpiry with
      | false => rfl
      | true =>
        have hnow := h.unexpired hchecks
        rw [Bool.true_and, decide_eq_false_iff_not]
        omega
    have hstart : (v.checksStart && c.start.any (now + v.leeway < ·)) = false := by
      cases hchecks : v.checksStart with
      | false => rfl
      | true =>
        cases hsome : c.start with
        | none => rfl
        | some start => simpa using h.started hchecks start hsome
    have hissuers : v.issuers.all (agrees · c.issuers) = true := by
      cases hsome : v.issuers with
      | none => rfl
      | some issuers => exact h.issuer issuers hsome
    have haudience : (v.checksAudience && !agrees v.audiences c.audiences) = false := by
      cases hchecks : v.checksAudience with
      | false => rfl
      | true => simp [h.audience hchecks]
    simp [hfound, hexpiry, hstart, hissuers, haudience]

section Demands

variable (d : Demands) (header : Header)

/-! Whatever its header, a token has to say whose it is, when it expires and who issued it. When it
starts is never checked, and for whom it is only as long as audiences are named. -/

@[simp] theorem validation_algorithms :
    (d.validation header).algorithms = [header.algorithm.judgedAs] := by
  unfold Demands.validation
  split <;> rfl

@[simp] theorem validation_required :
    (d.validation header).required = [.expiry, .issuer, .subject] := by
  unfold Demands.validation
  split <;> rfl

@[simp] theorem validation_leeway : (d.validation header).leeway = d.leeway := by
  unfold Demands.validation
  split <;> rfl

@[simp] theorem validation_checksExpiry : (d.validation header).checksExpiry = true := by
  unfold Demands.validation
  split <;> rfl

@[simp] theorem validation_checksStart : (d.validation header).checksStart = false := by
  unfold Demands.validation
  split <;> rfl

@[simp] theorem validation_issuers : (d.validation header).issuers = some [d.issuer] := by
  unfold Demands.validation
  split <;> rfl

@[simp] theorem validation_checksAudience :
    (d.validation header).checksAudience = !d.audiences.isEmpty := by
  unfold Demands.validation
  split
  · next hempty => simp [hempty]
  · next hsome => simp [hsome, Validation.ofAlgorithm]

@[simp] theorem validation_audiences : (d.validation header).audiences = d.audiences := by
  unfold Demands.validation
  split
  · next hempty => simpa [Validation.ofAlgorithm] using hempty.symm
  · rfl

end Demands

theorem agrees_eq_true {accepted : List String} {claimed : Option (List String)} :
    Validation.agrees accepted claimed = true ↔
      ∀ names, claimed = some names → ∃ s ∈ accepted, s ∈ names := by
  cases claimed with
  | none => simp [Validation.agrees]
  | some names => simp [Validation.agrees]

/-- What claims come to that meet the demands of a provider at a second: they have not expired, name
it as an issuer and, when it names audiences, name one of them if they name any at all. -/
structure Demands.MetBy (d : Demands) (now : Nat) (c : Claims) : Prop where
  unexpired : now ≤ c.expiry + d.leeway
  issuer : ∃ names, c.issuers = some names ∧ d.issuer ∈ names
  audience : d.audiences ≠ [] → ∀ names, c.audiences = some names → ∃ a ∈ d.audiences, a ∈ names

theorem passes_validation_iff {d : Demands} {header : Header} {now : Nat} {c : Claims} :
    (d.validation header).Passes now c ↔ d.MetBy now c := by
  constructor
  · intro h
    have htime := h.unexpired (validation_checksExpiry d header)
    have hsome : c.issuers.isSome = true := h.carries .issuer (by simp)
    obtain ⟨names, hnames⟩ := Option.isSome_iff_exists.mp hsome
    obtain ⟨s, hs, hissuer⟩ :=
      agrees_eq_true.mp (h.issuer _ (validation_issuers d header)) names hnames
    rw [List.mem_singleton.mp hs] at hissuer
    refine ⟨by rwa [validation_leeway] at htime, ⟨names, hnames, hissuer⟩, fun hasked => ?_⟩
    have haudience := h.audience (by simpa using hasked)
    rw [validation_audiences] at haudience
    exact agrees_eq_true.mp haudience
  · intro h
    obtain ⟨names, hnames, hissuer⟩ := h.issuer
    constructor
    · intro name hname
      rw [validation_required] at hname
      simp only [List.mem_cons, List.not_mem_nil, or_false] at hname
      rcases hname with rfl | rfl | rfl
      · rfl
      · rw [Claims.carry, hnames]
        rfl
      · rfl
    · intro _
      rw [validation_leeway]
      exact h.unexpired
    · intro hchecks
      rw [validation_checksStart] at hchecks
      cases hchecks
    · intro issuers hissuers
      cases (validation_issuers d header).symm.trans hissuers
      refine agrees_eq_true.mpr fun names' hnames' => ⟨d.issuer, List.mem_singleton_self _, ?_⟩
      cases hnames.symm.trans hnames'
      exact hissuer
    · intro hchecks
      rw [validation_checksAudience] at hchecks
      rw [validation_audiences]
      exact agrees_eq_true.mpr (h.audience (by simpa using hchecks))

/-! ## Signatures -/

/-- Published material is of the kind that signatures of an algorithm are checked with. -/
def Algorithm.Fits : Algorithm → KeyMaterial → Prop
  | .rs256, .rsa _ _ | .rs384, .rsa _ _ | .rs512, .rsa _ _ => True
  | .ps256, .rsa _ _ | .ps384, .rsa _ _ | .ps512, .rsa _ _ => True
  | .es256, .curve _ _ | .es384, .curve _ _ => True
  | _, _ => False

/-- A token carries a signature by an algorithm of its header and payload as they stand in it. -/
def IsSigned (algorithm : Algorithm) (key : PublicKey) (parts : Parts) : Prop :=
  ∃ verify signature, algorithm.verifier? key = some verify ∧
    Base64.url.decode? parts.signature = some signature ∧ verify parts.message signature = true

/-- A key that an algorithm can use stands for material of the kind that it needs. -/
theorem fits_of_verifier? {algorithm : Algorithm} {material : KeyMaterial} {key : PublicKey}
    (hkey : material.publicKey? = some key) (h : (algorithm.verifier? key).isSome = true) :
    algorithm.Fits material := by
  cases material with
  | other => cases hkey
  | rsa n e =>
    obtain ⟨modulus, -, hkey⟩ := Option.bind_eq_some_iff.mp hkey
    obtain ⟨exponent, -, ⟨⟩⟩ := Option.bind_eq_some_iff.mp hkey
    cases algorithm <;> trivial
  | curve x y =>
    obtain ⟨first, -, hkey⟩ := Option.bind_eq_some_iff.mp hkey
    obtain ⟨second, -, ⟨⟩⟩ := Option.bind_eq_some_iff.mp hkey
    cases algorithm <;> trivial

/-- An algorithm that fits any material at all is one of those that are accepted. -/
theorem Algorithm.Fits.mem_accepted {algorithm : Algorithm} {material : KeyMaterial}
    (h : algorithm.Fits material) : algorithm ∈ accepted := by
  cases algorithm <;> first | decide | cases material <;> cases h

/-- The check of a signature passes for an algorithm that counts whose signature the token
carries. -/
theorem checkSignature_eq_ok {v : Validation} {parts : Parts} {algorithm : Algorithm}
    {key : PublicKey} :
    checkSignature v parts algorithm key = .ok () ↔
      algorithm ∈ v.algorithms ∧ IsSigned algorithm key parts := by
  unfold checkSignature IsSigned
  rw [← List.contains_iff_mem]
  cases v.algorithms.contains algorithm with
  | false =>
    constructor
    · cases algorithm.verifier? key with
      | none => rintro ⟨⟩
      | some verify => rintro ⟨⟩
    · rintro ⟨⟨⟩, -⟩
  | true =>
    cases algorithm.verifier? key with
    | none => simp
    | some verify =>
      cases Base64.url.decode? parts.signature with
      | none => simp
      | some signature => cases h : verify parts.message signature <;> simp [h, pure, Except.pure]

/-- A token passes the check when its signature does, and the claims of its payload. -/
theorem check_eq_ok {d : Demands} {now : Nat} {parts : Parts} {header : Header} {key : PublicKey}
    {c : Claims} :
    check d now parts header key = .ok c ↔
      checkSignature (d.validation header) parts header.algorithm key = .ok () ∧
        claimsOf parts = .ok c ∧ (d.validation header).check now c = .ok () := by
  unfold check
  constructor
  · intro h
    obtain ⟨_, hsignature, h⟩ := bind_eq_ok.mp h
    obtain ⟨claims, hclaims, h⟩ := bind_eq_ok.mp h
    obtain ⟨_, hcheck, ⟨⟩⟩ := bind_eq_ok.mp h
    exact ⟨hsignature, hclaims, hcheck⟩
  · rintro ⟨hsignature, hclaims, hcheck⟩
    have hlast : ((d.validation header).check now c >>= fun _ => pure c) = .ok c :=
      bind_eq_ok.mpr ⟨(), hcheck, rfl⟩
    exact bind_eq_ok.mpr ⟨(), hsignature, bind_eq_ok.mpr ⟨c, hclaims, hlast⟩⟩

/-- An algorithm that checks signatures with a public key is judged as what it is. -/
theorem judgedAs_of_verifier? {algorithm : Algorithm} {key : PublicKey}
    (h : (algorithm.verifier? key).isSome = true) : algorithm.judgedAs = algorithm := by
  cases algorithm <;> first | rfl | cases h

/-- What passes the check of a token: a signature by the algorithm that its header names, over a
payload whose claims meet the demands. -/
theorem check_iff {d : Demands} {now : Nat} {parts : Parts} {header : Header} {key : PublicKey}
    {c : Claims} :
    check d now parts header key = .ok c ↔
      IsSigned header.algorithm key parts ∧ claimsOf parts = .ok c ∧ d.MetBy now c := by
  rw [check_eq_ok, checkSignature_eq_ok, Validation.check_eq_ok, passes_validation_iff, and_assoc,
    validation_algorithms, List.mem_singleton]
  constructor
  · exact fun h => h.2
  · intro h
    obtain ⟨verify, signature, hverify, -⟩ := h.1
    exact ⟨(judgedAs_of_verifier? (by rw [hverify]; rfl)).symm, h⟩

/-- What passes the check of a token has not expired and names the issuer. -/
theorem check_ok {d : Demands} {now : Nat} {parts : Parts} {header : Header} {key : PublicKey}
    {c : Claims} (h : check d now parts header key = .ok c) :
    IsSigned header.algorithm key parts ∧ claimsOf parts = .ok c ∧ now ≤ c.expiry + d.leeway ∧
      ∃ names, c.issuers = some names ∧ d.issuer ∈ names := by
  obtain ⟨hsigned, hclaims, hmet⟩ := check_iff.mp h
  exact ⟨hsigned, hclaims, hmet.unexpired, hmet.issuer⟩

end Gatehouse.Token
