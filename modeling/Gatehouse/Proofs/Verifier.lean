import Gatehouse.Proofs.Digest
import Gatehouse.Proofs.Except
import Gatehouse.Proofs.Phc
import Gatehouse.Secret.Verifier

/-!
# Verifying against stored hashes

A stored text is usable if it is the text form of a hash of Argon2id all of whose parts make sense,
and then it asks for one evaluation (`recipe_eq_ok`); nothing matches any other text. What a
verifier issues asks to repeat the evaluation that it was made with (`Verifier.recipe_issue`), so a
secret matches it exactly if its digest is the one of the secret that it was issued for. No verifier
has a say in that (`Verifier.issued_verifies_exactly`).
-/

namespace Gatehouse

open Text Encoding Digest

namespace Secret

/-! ## Costs -/

theorem acceptCost_eq_ok {c c' : Argon2.Cost} (h : acceptCost c = .ok c') : c' = c := by
  unfold acceptCost at h
  split at h
  · cases h
  split at h
  · cases h
  split at h
  · cases h
  split at h
  · cases h
  cases h
  rfl

/-! ## Parameters -/

variable {ps : List (String × String)} {p p' : Parameters}

/-- A parameter of Argon2id with a value that fits its name. -/
def IsKnown (q : String × String) : Prop :=
  (q.1 ∈ ["m", "t", "p"] ∧ ∃ n < Phc.numberBound, q.2 = toString n) ∨
  (q.1 = "keyid" ∧ ∃ l, l.length ≤ 8 ∧ q.2 = String.ofList (Base64.standard.encode l)) ∨
  (q.1 = "data" ∧ ∃ l, l.length ≤ 32 ∧ q.2 = String.ofList (Base64.standard.encode l))

def lastValue? (ps : List (String × String)) (name : String) : Option String :=
  ps.reverse.lookup name

theorem lastValue?_cons (q : String × String) (ps : List (String × String)) (name : String) :
    lastValue? (q :: ps) name = (lastValue? ps name).or (lastValue? [q] name) := by
  unfold lastValue?
  rw [List.reverse_cons, List.lookup_append]
  rfl

def numberIn (value : String) : Nat := (Phc.number? value.toList).getD 0

def bytesIn (value : String) : List UInt8 := (Base64.standard.decode? value.toList).getD []

/-- What parameters come to after others: the last one of a name counts. -/
def Parameters.after (p : Parameters) (ps : List (String × String)) : Parameters where
  memory := ((lastValue? ps "m").map numberIn).getD p.memory
  passes := ((lastValue? ps "t").map numberIn).getD p.passes
  lanes := ((lastValue? ps "p").map numberIn).getD p.lanes
  data := ((lastValue? ps "data").map bytesIn).getD p.data

theorem Parameters.after_after (p : Parameters) (q : String × String)
    (ps : List (String × String)) : (p.after [q]).after ps = p.after (q :: ps) := by
  unfold after
  simp only [lastValue?_cons q ps, Option.map_or, Option.getD_or]

theorem number?_eq_some_iff_toString {value : String} {n : Nat} :
    Phc.number? value.toList = some n ↔ value = toString n ∧ n < Phc.numberBound := by
  rw [Phc.number?_eq_some, ← Phc.toList_toString, String.toList_inj]

theorem shortBytes?_eq_some {limit : Nat} {value : String} {l : List UInt8} :
    shortBytes? limit value = some l ↔
      value = String.ofList (Base64.standard.encode l) ∧ l.length ≤ limit := by
  unfold shortBytes?
  rw [Option.filter_eq_some_iff, Base64.decode?_eq_some, ← String.toList_inj, String.toList_ofList,
    decide_eq_true_eq]

section Take

variable {name value : String}

theorem isKnown_number (hname : name ∈ ["m", "t", "p"]) :
    IsKnown (name, value) ↔ ∃ n, Phc.number? value.toList = some n := by
  simp only [number?_eq_some_iff_toString, and_comm (a := value = _)]
  constructor
  · rintro (⟨-, hn⟩ | ⟨rfl, -⟩ | ⟨rfl, -⟩)
    · exact hn
    · exact absurd hname (by decide)
    · exact absurd hname (by decide)
  · intro hn
    exact Or.inl ⟨hname, hn⟩

theorem isKnown_keyId : IsKnown ("keyid", value) ↔ ∃ l, shortBytes? 8 value = some l := by
  simp [IsKnown, shortBytes?_eq_some, and_comm]

theorem isKnown_data : IsKnown ("data", value) ↔ ∃ l, shortBytes? 32 value = some l := by
  simp [IsKnown, shortBytes?_eq_some, and_comm]

/-- A parameter is taken into account if its value can be read. -/
theorem map_eq_some_of_isKnown {α : Type} {x : Option α} {f : α → Parameters}
    (hknown : IsKnown (name, value) ↔ ∃ a, x = some a)
    (hafter : ∀ a, x = some a → f a = p.after [(name, value)]) :
    x.map f = some p' ↔ IsKnown (name, value) ∧ p' = p.after [(name, value)] := by
  rw [Option.map_eq_some_iff, hknown]
  constructor
  · rintro ⟨a, ha, rfl⟩
    exact ⟨⟨a, ha⟩, hafter a ha⟩
  · rintro ⟨⟨a, ha⟩, rfl⟩
    exact ⟨a, ha, hafter a ha⟩

theorem Parameters.take?_eq_some :
    p.take? name value = some p' ↔ IsKnown (name, value) ∧ p' = p.after [(name, value)] := by
  unfold take?
  split
  · next h =>
    subst h
    refine map_eq_some_of_isKnown (isKnown_number (by decide)) fun n hn => ?_
    simp [after, lastValue?, numberIn, hn]
  split
  · next h =>
    subst h
    refine map_eq_some_of_isKnown (isKnown_number (by decide)) fun n hn => ?_
    simp [after, lastValue?, numberIn, hn]
  split
  · next h =>
    subst h
    refine map_eq_some_of_isKnown (isKnown_number (by decide)) fun n hn => ?_
    simp [after, lastValue?, numberIn, hn]
  split
  · next h =>
    subst h
    refine map_eq_some_of_isKnown isKnown_keyId fun l _ => ?_
    simp [after, lastValue?]
  split
  · next h =>
    subst h
    refine map_eq_some_of_isKnown isKnown_data fun l hl => ?_
    have hvalue := (shortBytes?_eq_some.mp hl).1
    simp [after, lastValue?, bytesIn, hvalue, Base64.decode?_encode]
  · simp_all [IsKnown]

end Take

theorem foldlM_take?_eq_some :
    ps.foldlM (fun (p : Parameters) (name, value) => p.take? name value) p = some p' ↔
      (∀ q ∈ ps, IsKnown q) ∧ p' = p.after ps := by
  induction ps generalizing p with
  | nil =>
    rw [List.foldlM_nil, Option.pure_def, Option.some_inj, eq_comm]
    simp [Parameters.after, lastValue?]
  | cons q ps ih =>
    rw [List.foldlM_cons, Option.bind_eq_bind, Option.bind_eq_some_iff, List.forall_mem_cons,
      ← Parameters.after_after]
    constructor
    · rintro ⟨p₁, hp₁, h⟩
      obtain ⟨hq, rfl⟩ := Parameters.take?_eq_some.mp hp₁
      obtain ⟨hps, hp'⟩ := ih.mp h
      exact ⟨⟨hq, hps⟩, hp'⟩
    · rintro ⟨⟨hq, hps⟩, hp'⟩
      exact ⟨_, Parameters.take?_eq_some.mpr ⟨hq, rfl⟩, ih.mpr ⟨hps, hp'⟩⟩

def Parameters.cost (p : Parameters) : Argon2.Cost := ⟨p.memory, p.passes, p.lanes⟩

theorem parametersOf?_eq_some {cost : Argon2.Cost} {data : List UInt8} :
    parametersOf? ps = some (cost, data) ↔ (∀ q ∈ ps, IsKnown q) ∧
      cost = (({} : Parameters).after ps).cost ∧ data = (({} : Parameters).after ps).data ∧
      acceptCost cost = .ok cost := by
  unfold parametersOf?
  simp only [Option.bind_eq_bind, Option.bind_eq_some_iff, Option.pure_def, Option.some_inj,
    foldlM_take?_eq_some, toOption_eq_some]
  constructor
  · rintro ⟨p, ⟨hps, rfl⟩, cost', haccept, heq⟩
    obtain ⟨rfl, rfl⟩ := Prod.mk.inj heq
    have hcost := acceptCost_eq_ok haccept
    exact ⟨hps, hcost, rfl, hcost ▸ haccept⟩
  · rintro ⟨hps, rfl, rfl, haccept⟩
    exact ⟨_, ⟨hps, rfl⟩, _, haccept, rfl⟩

/-! ## Stored hashes -/

/-- A hash asks for an evaluation, and for the comparison of the digest that it gives. -/
structure Phc.AsksFor (h : Phc) (r : Recipe) : Prop where
  algorithm : h.algorithm = "argon2id"
  version : versionOf? h.version = some r.version
  parameters : ∀ q ∈ h.parameters, IsKnown q
  cost : r.cost = (({} : Parameters).after h.parameters).cost
  accepted : acceptCost r.cost = .ok r.cost
  data : r.data = (({} : Parameters).after h.parameters).data
  salt : h.salt = some (String.ofList (Base64.standard.encode r.salt))
  long : 8 ≤ r.salt.length
  digest : h.digest = some r.expected
  size : r.expected.length = digestSize

/-- A text is the text form of a hash that asks for an evaluation. -/
def IsUsable (stored : String) : Prop :=
  ∃ (h : Phc) (r : Recipe), h.IsWellFormed ∧ h.toText = stored ∧ h.AsksFor r

variable {stored : String} {r : Recipe}

theorem recipe_of_parse? {h : Phc} (hparse : Phc.parse? stored = some h) :
    recipe stored = .ok r ↔ h.AsksFor r := by
  unfold recipe
  rw [hparse]
  dsimp only
  constructor
  · intro hrecipe
    -- Every check either ends the reading or leaves a fact about the hash behind.
    split at hrecipe
    · cases hrecipe
    next halgorithm =>
    split at hrecipe
    case h_2 => cases hrecipe
    next expected hdigest =>
    split at hrecipe
    · cases hrecipe
    next hsize =>
    split at hrecipe
    case h_2 => cases hrecipe
    next text hsalt =>
    split at hrecipe
    case h_2 => cases hrecipe
    next salt hdecode =>
    split at hrecipe
    case h_2 => cases hrecipe
    next version hversion =>
    split at hrecipe
    case h_2 => cases hrecipe
    next cost data hparameters =>
    split at hrecipe
    · cases hrecipe
    next hlong =>
    cases hrecipe
    obtain ⟨hknown, hcost, hdata, haccepted⟩ := parametersOf?_eq_some.mp hparameters
    rw [bne_iff_ne, ne_eq, not_not] at halgorithm hsize
    have htext : text = String.ofList (Base64.standard.encode salt) := by
      rw [← Base64.decode?_eq_some.mp hdecode, String.ofList_toList]
    exact ⟨halgorithm, hversion, hknown, hcost, haccepted, hdata, htext ▸ hsalt,
      Nat.le_of_not_lt hlong, hdigest, hsize⟩
  · intro hasks
    have hparameters : parametersOf? h.parameters = some (r.cost, r.data) :=
      parametersOf?_eq_some.mpr ⟨hasks.parameters, hasks.cost, hasks.data, hasks.accepted⟩
    have hlong : ¬r.salt.length < 8 := Nat.not_lt.mpr hasks.long
    simp only [hasks.algorithm, hasks.digest, hasks.size, hasks.salt, hasks.version, hparameters,
      String.toList_ofList, Base64.decode?_encode, hlong, bne_self_eq_false, if_false,
      Bool.false_eq_true]
    rfl

theorem recipe_eq_ok :
    recipe stored = .ok r ↔ ∃ h : Phc, h.IsWellFormed ∧ h.toText = stored ∧ h.AsksFor r := by
  constructor
  · intro hrecipe
    cases hparse : Phc.parse? stored with
    | none =>
      unfold recipe at hrecipe
      rw [hparse] at hrecipe
      cases hrecipe
    | some h =>
      obtain ⟨hw, htext⟩ := Phc.parse?_eq_some.mp hparse
      exact ⟨h, hw, htext, (recipe_of_parse? hparse).mp hrecipe⟩
  · rintro ⟨h, hw, htext, hasks⟩
    exact (recipe_of_parse? (Phc.parse?_eq_some.mpr ⟨hw, htext⟩)).mpr hasks

theorem recompute_eq_ok {submitted : String} {digests : List UInt8 × List UInt8} :
    recompute submitted stored = .ok digests ↔
      ∃ r, recipe stored = .ok r ∧ (r.digest submitted, r.expected) = digests :=
  map_eq_ok

theorem isUsable_iff_recompute (submitted : String) :
    IsUsable stored ↔ ∃ digests, recompute submitted stored = .ok digests := by
  simp only [recompute_eq_ok, recipe_eq_ok]
  constructor
  · rintro ⟨h, r, hr⟩
    exact ⟨_, r, ⟨h, hr⟩, rfl⟩
  · rintro ⟨_, r, ⟨h, hr⟩, -⟩
    exact ⟨h, r, hr⟩

theorem verify_of_recompute {submitted : String} {computed expected : List UInt8}
    (h : recompute submitted stored = .ok (computed, expected)) :
    verify submitted stored = (computed == expected, none) := by
  unfold verify
  rw [h]

/-- Nothing matches a text that is not usable. -/
theorem verify_of_not_isUsable (h : ¬IsUsable stored) (submitted : String) :
    (verify submitted stored).1 = false := by
  unfold verify
  cases hrecompute : recompute submitted stored with
  | error reason => rfl
  | ok digests => exact absurd ((isUsable_iff_recompute submitted).mpr ⟨digests, hrecompute⟩) h

/-! ## Issued hashes -/

/-- The cost of a verifier is accepted, and its numbers can be written into a hash. -/
structure Verifier.Issues (v : Verifier) : Prop where
  accepted : acceptCost v.cost = .ok v.cost
  memory : v.cost.memory < Phc.numberBound
  passes : v.cost.passes < Phc.numberBound
  lanes : v.cost.lanes < Phc.numberBound

/-- The numbers of the cost that settings ask for can be written into a hash. -/
def Settings.IsWritable (c : Settings) : Prop :=
  c.memoryKib < Phc.numberBound ∧ c.iterations < Phc.numberBound ∧ c.parallelism < Phc.numberBound

theorem bounds_of_saltSize {salt : List UInt8} (h : salt.length = saltSize) :
    8 ≤ salt.length ∧ salt.length ≤ 48 := by
  rw [h]
  decide

namespace Verifier

variable {v : Verifier} {c : Settings} {salt : List UInt8}

theorem ofSettings_eq_ok (h : ofSettings c = .ok v) :
    v = ⟨⟨c.memoryKib, c.iterations, c.parallelism⟩, c.maxConcurrent⟩ ∧
      acceptCost v.cost = .ok v.cost ∧ 0 < v.slots := by
  unfold ofSettings at h
  split at h
  · cases h
  · next hslots =>
    cases haccept : acceptCost ⟨c.memoryKib, c.iterations, c.parallelism⟩ with
    | error fault =>
      rw [haccept] at h
      cases h
    | ok cost =>
      rw [haccept] at h
      cases h
      have hcost := acceptCost_eq_ok haccept
      exact ⟨by rw [hcost], hcost ▸ haccept, Nat.pos_of_ne_zero hslots⟩

theorem issues_of_ofSettings (h : ofSettings c = .ok v) (hc : c.IsWritable) : v.Issues := by
  obtain ⟨rfl, haccepted, -⟩ := ofSettings_eq_ok h
  obtain ⟨hmemory, hiterations, hparallelism⟩ := hc
  exact ⟨haccepted, hmemory, hiterations, hparallelism⟩

def parameters (v : Verifier) : List (String × String) :=
  [("m", toString v.cost.memory), ("t", toString v.cost.passes), ("p", toString v.cost.lanes)]

theorem Issues.isParameter (h : v.Issues) : ∀ p ∈ v.parameters, Phc.IsParameter p := by
  have hnumber : ∀ name n, Phc.isName name.toList = true → n < Phc.numberBound →
      Phc.IsParameter (name, toString n) := by
    intro name n hname hn
    refine ⟨hname, ?_⟩
    rw [Phc.toList_toString]
    exact Phc.isValue_toDigits hn
  unfold parameters
  simp only [List.forall_mem_cons]
  exact ⟨hnumber _ _ (by decide) h.memory, hnumber _ _ (by decide) h.passes,
    hnumber _ _ (by decide) h.lanes, by simp⟩

theorem Issues.length_parametersText (h : v.Issues) :
    (Phc.parametersText v.parameters).length ≤ 127 := by
  have hmemory := Phc.length_toDigits h.memory
  have hpasses := Phc.length_toDigits h.passes
  have hlanes := Phc.length_toDigits h.lanes
  unfold Phc.parametersText Phc.parameterText parameters
  rw [List.map_cons, intercalate_singleton]
  simp only [List.map_cons, List.map_nil, List.flatMap_cons, List.flatMap_nil, List.length_append,
    List.length_cons, List.length_nil, Phc.toList_toString, String.length_toList]
  have hname : "m".length = 1 ∧ "t".length = 1 ∧ "p".length = 1 := by decide
  omega

theorem Issues.isKnown (h : v.Issues) : ∀ q ∈ v.parameters, IsKnown q := by
  have hnumber : ∀ name n, name ∈ ["m", "t", "p"] → n < Phc.numberBound →
      IsKnown (name, toString n) :=
    fun name n hname hn => Or.inl ⟨hname, n, hn, rfl⟩
  unfold parameters
  simp only [List.forall_mem_cons]
  exact ⟨hnumber _ _ (by decide) h.memory, hnumber _ _ (by decide) h.passes,
    hnumber _ _ (by decide) h.lanes, by simp⟩

theorem Issues.after_parameters (h : v.Issues) (p : Parameters) :
    p.after v.parameters = ⟨v.cost.memory, v.cost.passes, v.cost.lanes, p.data⟩ := by
  have hnumberIn : ∀ n < Phc.numberBound, numberIn (toString n) = n := by
    intro n hn
    rw [numberIn, number?_eq_some_iff_toString.mpr ⟨rfl, hn⟩, Option.getD_some]
  have hmemory : lastValue? v.parameters "m" = some (toString v.cost.memory) := rfl
  have hpasses : lastValue? v.parameters "t" = some (toString v.cost.passes) := rfl
  have hlanes : lastValue? v.parameters "p" = some (toString v.cost.lanes) := rfl
  have hdata : lastValue? v.parameters "data" = none := rfl
  unfold Parameters.after
  rw [hmemory, hpasses, hlanes, hdata]
  simp only [Option.map_some, Option.map_none, Option.getD_some, Option.getD_none,
    hnumberIn _ h.memory, hnumberIn _ h.passes, hnumberIn _ h.lanes]

theorem length_digest (v : Verifier) (salt : List UInt8) (secret : String) :
    (argon2id .v19 v.cost digestSize secret.toUTF8.toList salt []).length = digestSize :=
  length_argon2id (by decide) _ _ _ _ _

theorem Issues.isWellFormed (h : v.Issues) (hsalt : 8 ≤ salt.length ∧ salt.length ≤ 48)
    (secret : String) : (v.hash salt secret).IsWellFormed where
  algorithm := (by decide : Phc.isName "argon2id".toList = true)
  version := by
    rintro n ⟨⟩
    decide
  parameters := h.isParameter
  short := h.length_parametersText
  versionless := by
    rintro ⟨⟩
  salt := by
    rintro s ⟨⟩
    exact Phc.isSalt_encode (by omega) hsalt.2
  digest := by
    rintro d ⟨⟩
    rw [length_digest]
    decide
  salted := fun _ => rfl

/-- An issued hash says which evaluation it was made with, and what that gave. -/
theorem recipe_issue (h : v.Issues) (hsalt : 8 ≤ salt.length ∧ salt.length ≤ 48)
    (secret : String) :
    recipe (v.issue salt secret) = .ok ⟨.v19, v.cost, salt, [],
      argon2id .v19 v.cost digestSize secret.toUTF8.toList salt []⟩ := by
  have hafter := h.after_parameters {}
  refine recipe_eq_ok.mpr ⟨v.hash salt secret, h.isWellFormed hsalt secret, rfl, ?_⟩
  exact ⟨rfl, rfl, h.isKnown, (congrArg Parameters.cost hafter).symm, h.accepted,
    (congrArg Parameters.data hafter).symm, rfl, hsalt.1, rfl, length_digest v salt secret⟩

theorem recompute_issue (h : v.Issues) (hsalt : 8 ≤ salt.length ∧ salt.length ≤ 48)
    (submitted secret : String) :
    recompute submitted (v.issue salt secret) =
      .ok (argon2id .v19 v.cost digestSize submitted.toUTF8.toList salt [],
        argon2id .v19 v.cost digestSize secret.toUTF8.toList salt []) :=
  recompute_eq_ok.mpr ⟨_, recipe_issue h hsalt secret, rfl⟩

/-- A secret matches every hash that was issued for it. -/
theorem verify_issue (h : v.Issues) (hsalt : 8 ≤ salt.length ∧ salt.length ≤ 48)
    (secret : String) : verify secret (v.issue salt secret) = (true, none) := by
  rw [verify_of_recompute (recompute_issue h hsalt secret secret), beq_self_eq_true]

/-- Whatever the settings ask for, what is issued with them says so itself: reading it again takes
no verifier, and a secret matches it exactly if it has the digest of the secret that it was issued
for, so that secret does. Nothing matches a text that is not the text form of a hash of Argon2id with
a known version, known parameters of an acceptable cost, a salt in base 64 and a digest of 32
bytes. -/
theorem issued_verifies_exactly (h : ofSettings c = .ok v) (hc : c.IsWritable) :
    (∀ salt secret, salt.length = saltSize →
      let cost : Argon2.Cost := ⟨c.memoryKib, c.iterations, c.parallelism⟩
      let digest (s : String) := argon2id .v19 cost digestSize s.toUTF8.toList salt []
      let stored := v.issue salt secret
      recipe stored = .ok ⟨.v19, cost, salt, [], digest secret⟩ ∧
      (∀ submitted, recompute submitted stored = .ok (digest submitted, digest secret)) ∧
      verify secret stored = (true, none) ∧
      ∀ submitted, (verify submitted stored).1 = true ↔ digest submitted = digest secret) ∧
    ∀ stored submitted,
      (IsUsable stored ↔ ∃ digests, recompute submitted stored = .ok digests) ∧
      (¬IsUsable stored → (verify submitted stored).1 = false) := by
  have hissues := issues_of_ofSettings h hc
  obtain ⟨rfl, -⟩ := ofSettings_eq_ok h
  refine ⟨fun salt secret hsize => ?_, fun stored submitted =>
    ⟨isUsable_iff_recompute submitted, fun hnot => verify_of_not_isUsable hnot submitted⟩⟩
  have hsalt := bounds_of_saltSize hsize
  have hrecompute := fun submitted => recompute_issue hissues hsalt submitted secret
  refine ⟨recipe_issue hissues hsalt secret, hrecompute, verify_issue hissues hsalt secret, ?_⟩
  intro submitted
  rw [verify_of_recompute (hrecompute submitted), beq_iff_eq]

/-- The greatest cost that settings can ask for. A text is not usable if it has no fields. -/
theorem issued_verifies_exactly_greatest :
    let c : Settings := ⟨4294967295, 4294967295, 16777215, 1⟩
    let v : Verifier := ⟨⟨4294967295, 4294967295, 16777215⟩, 1⟩
    let salt : List UInt8 := List.replicate 16 255
    ofSettings c = .ok v ∧ c.IsWritable ∧ salt.length = saltSize ∧
      verify "s" (v.issue salt "s") = (true, none) ∧ (verify "s" "s").1 = false := by
  intro c v salt
  have hof : ofSettings c = .ok v := rfl
  have hc : c.IsWritable := ⟨by decide, by decide, by decide⟩
  obtain ⟨hissued, hother⟩ := issued_verifies_exactly hof hc
  obtain ⟨-, -, hverify, -⟩ := hissued salt "s" rfl
  obtain ⟨husable, hnot⟩ := hother "s" "s"
  refine ⟨hof, hc, rfl, hverify, hnot fun h => ?_⟩
  obtain ⟨digests, hdigests⟩ := husable.mp h
  have hnone : recompute "s" "s" = .error .notPhc := by decide +kernel
  rw [hnone] at hdigests
  cases hdigests

end Verifier

end Secret

end Gatehouse
