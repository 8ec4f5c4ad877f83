import Gatehouse.Proofs.Ascii
import Gatehouse.Proofs.Base64
import Gatehouse.Proofs.Decimal
import Gatehouse.Secret.Phc

/-!
# The text form of password hashes

Neither names nor values of a hash contain one of the separators of its text form, so the text falls
into the fields that it was made of, and each field into its parts. Numbers have no leading zeros
and digests no stray bits, so there is nothing to choose when a hash is written: a text is read as
the hash that it is the text form of, if that hash can be written, and not read otherwise
(`Phc.parse?_eq_some`).
-/

namespace Gatehouse

open Text Encoding

namespace Secret

namespace Phc

/-! ## Characters -/

theorem ne_of_holds {p : Char → Bool} {c d : Char} (hc : p c = true) (hd : p d = false) :
    c ≠ d := by
  rintro rfl
  rw [hc] at hd
  cases hd

theorem not_mem_of_holds {p : Char → Bool} {d : Char} {cs : List Char} (hcs : ∀ c ∈ cs, p c = true)
    (hd : p d = false) : d ∉ cs := by
  intro hmem
  exact ne_of_holds (hcs d hmem) hd rfl

variable {cs : List Char} {n : Nat}

theorem isNameChar_of_isName (h : isName cs = true) : ∀ c ∈ cs, isNameChar c = true := by
  unfold isName at h
  simp only [Bool.and_eq_true, List.all_eq_true] at h
  exact h.2

theorem isValueChar_of_isValue (h : isValue cs = true) : ∀ c ∈ cs, isValueChar c = true := by
  unfold isValue at h
  simp only [Bool.and_eq_true, List.all_eq_true] at h
  exact h.2

/-! ## Numbers -/

theorem toList_toString (n : Nat) : (toString n).toList = Nat.toDigits 10 n := by
  rw [Nat.toString_eq_ofList_toDigits, String.toList_ofList]

theorem number?_toDigits (h : n < numberBound) : number? (Nat.toDigits 10 n) = some n := by
  have hlead : ¬((Nat.toDigits 10 n).head? = some '0' && (Nat.toDigits 10 n).length != 1) := by
    by_cases hn : n = 0
    · rw [hn, Nat.toDigits_zero]
      decide
    · obtain ⟨c, cs, hcs, hc⟩ := Json.exists_toDigits_eq_cons hn
      rw [hcs]
      simp [hc]
  unfold number?
  rw [if_neg hlead, natOfDigits?_toDigits, Option.filter_some, if_pos (by simpa using h)]

/-- A number is read from the digits that it is written with. -/
theorem number?_eq_some : number? cs = some n ↔ cs = Nat.toDigits 10 n ∧ n < numberBound := by
  constructor
  · intro h
    unfold number? at h
    split at h
    · cases h
    · next hlead =>
      obtain ⟨hdigits, hbound⟩ := Option.filter_eq_some_iff.mp h
      unfold natOfDigits? at hdigits
      split at hdigits
      · cases hdigits
      · next hall =>
        cases hdigits
        refine ⟨?_, by simpa using hbound⟩
        cases cs with
        | nil => simp at hall
        | cons c cs =>
          have hisDigit : ∀ d ∈ c :: cs, isDigit d = true := by simpa using hall
          have hzero : c = '0' → cs = [] := by simpa using hlead
          exact (toDigits_appendDigits hisDigit hzero).symm
  · rintro ⟨rfl, hbound⟩
    exact number?_toDigits hbound

theorem length_toDigits (h : n < numberBound) : (Nat.toDigits 10 n).length ≤ 10 :=
  (Nat.length_toDigits_le_iff (by decide) (by decide)).mpr (Nat.lt_trans h (by decide))

theorem isValue_toDigits (h : n < numberBound) : isValue (Nat.toDigits 10 n) = true := by
  have hlength := length_toDigits h
  unfold isValue
  simp only [Bool.and_eq_true, decide_eq_true_eq, List.all_eq_true]
  refine ⟨by omega, fun c hc => ?_⟩
  have hdigit := (Json.digits_toDigits n).2 c hc
  unfold isValueChar
  simp [hdigit]

/-! ## Parameters -/

/-- A parameter has a name and a value that can be written. -/
structure IsParameter (p : String × String) : Prop where
  name : isName p.1.toList = true
  value : isValue p.2.toList = true

variable {p : String × String} {ps : List (String × String)}

def parameterText (p : String × String) : List Char := p.1.toList ++ '=' :: p.2.toList

theorem IsParameter.not_mem_name (h : IsParameter p) {c : Char} (hc : isNameChar c = false) :
    c ∉ p.1.toList :=
  not_mem_of_holds (isNameChar_of_isName h.name) hc

theorem IsParameter.not_mem_value (h : IsParameter p) {c : Char} (hc : isValueChar c = false) :
    c ∉ p.2.toList :=
  not_mem_of_holds (isValueChar_of_isValue h.value) hc

theorem parameter?_eq_some : parameter? cs = some p ↔ IsParameter p ∧ cs = parameterText p := by
  unfold parameter?
  constructor
  · intro h
    split at h
    · next name value hsplit =>
      split at h
      · next hvalid =>
        cases h
        rw [Bool.and_eq_true] at hvalid
        obtain ⟨hcs, -⟩ := splitOn_eq_cons.mp hsplit
        refine ⟨⟨?_, ?_⟩, ?_⟩
        · simpa using hvalid.1
        · simpa using hvalid.2
        · simpa [parameterText] using hcs
      · cases h
    · cases h
  · rintro ⟨h, rfl⟩
    have hsplit : splitOn (· == '=') (parameterText p) = [p.1.toList, p.2.toList] := by
      rw [splitOn_eq_cons]
      simp only [List.forall_mem_cons]
      exact ⟨by simp [parameterText], h.not_mem_name (by decide), h.not_mem_value (by decide),
        by simp⟩
    simp [hsplit, h.name, h.value]

/-- The fields of a hash are apart from each other, and so are the parameters in their field. -/
theorem IsParameter.not_mem_text (h : IsParameter p) {d : Char} (hd : d = '$' ∨ d = ',') :
    d ∉ parameterText p := by
  unfold parameterText
  rw [List.mem_append, List.mem_cons]
  rintro (hmem | rfl | hmem)
  · refine h.not_mem_name ?_ hmem
    rcases hd with rfl | rfl <;> decide
  · rcases hd with h | h <;> cases h
  · refine h.not_mem_value ?_ hmem
    rcases hd with rfl | rfl <;> decide

def parametersText (ps : List (String × String)) : List Char :=
  [','].intercalate (ps.map parameterText)

theorem parametersText_singleton (p : String × String) : parametersText [p] = parameterText p := by
  unfold parametersText
  simp

theorem mapM_parameter?_eq_some {parts : List (List Char)} :
    parts.mapM parameter? = some ps ↔ (∀ p ∈ ps, IsParameter p) ∧ parts = ps.map parameterText := by
  induction parts generalizing ps with
  | nil =>
    rw [List.mapM_nil]
    constructor
    · intro h
      cases h
      simp
    · rintro ⟨-, hnil⟩
      rw [List.map_eq_nil_iff.mp hnil.symm]
      rfl
  | cons part parts ih =>
    simp only [List.mapM_cons, Option.bind_eq_bind, Option.bind_eq_some_iff, Option.pure_def,
      Option.some_inj]
    constructor
    · rintro ⟨p, hp, ps, hps, rfl⟩
      obtain ⟨hparameter, rfl⟩ := parameter?_eq_some.mp hp
      obtain ⟨hparameters, rfl⟩ := ih.mp hps
      exact ⟨List.forall_mem_cons.mpr ⟨hparameter, hparameters⟩, rfl⟩
    · rintro ⟨h, hmap⟩
      cases ps with
      | nil => cases hmap
      | cons p ps =>
        obtain ⟨hp, hps⟩ := List.forall_mem_cons.mp h
        obtain ⟨rfl, rfl⟩ := List.cons.inj hmap
        exact ⟨p, parameter?_eq_some.mpr ⟨hp, rfl⟩, ps, ih.mpr ⟨hps, rfl⟩, rfl⟩

theorem splitOn_parametersText (hne : ps ≠ []) (h : ∀ p ∈ ps, IsParameter p) :
    splitOn (· == ',') (parametersText ps) = ps.map parameterText := by
  cases ps with
  | nil => exact absurd rfl hne
  | cons p ps =>
    unfold parametersText
    rw [List.map_cons, intercalate_singleton, splitOn_eq_cons]
    refine ⟨rfl, ?_⟩
    rw [← List.map_cons]
    intro part hpart
    obtain ⟨q, hq, rfl⟩ := List.mem_map.mp hpart
    exact (h q hq).not_mem_text (Or.inr rfl)

/-- Parameters that can be written are read from their text, and nothing else is read as them. -/
theorem parameters?_eq_some :
    parameters? cs = some ps ↔ ps ≠ [] ∧ (∀ p ∈ ps, IsParameter p) ∧
      (parametersText ps).length ≤ 127 ∧ cs = parametersText ps := by
  unfold parameters?
  constructor
  · intro h
    split at h
    · next hshort =>
      obtain ⟨hps, hparts⟩ := mapM_parameter?_eq_some.mp h
      cases ps with
      | nil => exact absurd hparts (splitOn_ne_nil _ cs)
      | cons p ps =>
        obtain ⟨hcs, -⟩ := splitOn_eq_cons.mp hparts
        have htext : cs = parametersText (p :: ps) := by
          rw [hcs]
          exact (intercalate_singleton ',' _ _).symm
        exact ⟨by simp, hps, htext ▸ hshort, htext⟩
    · cases h
  · rintro ⟨hne, hps, hshort, rfl⟩
    rw [if_pos hshort, mapM_parameter?_eq_some]
    exact ⟨hps, splitOn_parametersText hne hps⟩

theorem dollar_not_mem_parametersText (h : ∀ p ∈ ps, IsParameter p) : '$' ∉ parametersText ps := by
  intro hmem
  rcases mem_intercalate_singleton hmem with hc | ⟨l, hl, hc⟩
  · cases hc
  · obtain ⟨p, hp, rfl⟩ := List.mem_map.mp hl
    exact (h p hp).not_mem_text (Or.inl rfl) hc

theorem equals_mem_parametersText (hne : ps ≠ []) : '=' ∈ parametersText ps := by
  cases ps with
  | nil => exact absurd rfl hne
  | cons p ps =>
    unfold parametersText
    rw [List.map_cons, intercalate_singleton]
    simp [parameterText]

/-! ## Salts and digests -/

/-- A text may be a salt, even if it is not base 64. -/
structure IsSalt (s : String) : Prop where
  long : 4 ≤ s.toList.length
  value : isValue s.toList = true

theorem salt?_eq_some {salt : String} : salt? cs = some salt ↔ cs = salt.toList ∧ IsSalt salt := by
  unfold salt?
  constructor
  · intro h
    split at h
    · next hvalid =>
      cases h
      rw [Bool.and_eq_true, decide_eq_true_eq] at hvalid
      obtain ⟨hlong, hvalue⟩ := hvalid
      rw [← String.toList_ofList (l := cs)] at hlong hvalue
      exact ⟨String.toList_ofList.symm, hlong, hvalue⟩
    · cases h
  · rintro ⟨rfl, hlong, hvalue⟩
    rw [if_pos (by simp [hlong, hvalue]), String.ofList_toList]

theorem digest?_eq_some {l : List UInt8} :
    digest? cs = some l ↔ cs = Base64.standard.encode l ∧ 10 ≤ l.length ∧ l.length ≤ 64 := by
  unfold digest?
  rw [Option.filter_eq_some_iff, Base64.decode?_eq_some]
  simp

theorem isValueChar_char : ∀ n < 64, isValueChar (Base64.standard.char n) = true := by decide

theorem isValueChar_of_mem_encode {l : List UInt8} :
    ∀ c ∈ Base64.standard.encode l, isValueChar c = true :=
  Base64.forall_mem_encode (p := fun c => isValueChar c = true) isValueChar_char

theorem isValue_encode {l : List UInt8} (h : l.length ≤ 48) :
    isValue (Base64.standard.encode l) = true := by
  unfold isValue
  rw [Bool.and_eq_true, decide_eq_true_eq, List.all_eq_true]
  refine ⟨?_, isValueChar_of_mem_encode⟩
  rw [Base64.length_encode]
  omega

theorem isSalt_encode {l : List UInt8} (hlong : 3 ≤ l.length) (hshort : l.length ≤ 48) :
    IsSalt (String.ofList (Base64.standard.encode l)) := by
  constructor
  · rw [String.toList_ofList, Base64.length_encode]
    omega
  · rw [String.toList_ofList]
    exact isValue_encode hshort

/-! ## Versions -/

theorem isVersion_eq_true : isVersion cs = true ↔ (∃ rest, cs = 'v' :: '=' :: rest) ∧ ',' ∉ cs := by
  unfold isVersion
  rw [Bool.and_eq_true, beq_iff_eq, Bool.not_eq_true', List.contains_eq_mem,
    decide_eq_false_iff_not]
  refine and_congr_left fun _ => ?_
  constructor
  · intro h
    exact ⟨cs.drop 2, by rw [← List.take_append_drop 2 cs, h]; rfl⟩
  · rintro ⟨rest, rfl⟩
    rfl

theorem isVersion_parametersText (hne : ps ≠ []) (h : ∀ p ∈ ps, IsParameter p) :
    isVersion (parametersText ps) = true ↔ ∃ value, ps = [("v", value)] := by
  rw [isVersion_eq_true]
  constructor
  · rintro ⟨⟨rest, hrest⟩, hcomma⟩
    obtain ⟨p, rfl⟩ : ∃ p, ps = [p] := by
      match ps with
      | [] => exact absurd rfl hne
      | [p] => exact ⟨p, rfl⟩
      | p :: q :: ps =>
        -- A second parameter comes after a comma.
        refine absurd ?_ hcomma
        unfold parametersText
        rw [List.map_cons, List.map_cons, intercalate_singleton]
        simp
    have hp := h p List.mem_cons_self
    have hequals := hp.not_mem_name (c := '=') (by decide)
    rw [parametersText_singleton, parameterText] at hrest
    have hname : p.1.toList = "v".toList := by
      generalize p.1.toList = name at hrest hequals
      match name with
      | [] => cases hrest
      | [c] =>
        cases hrest
        rfl
      | c :: d :: name =>
        cases hrest
        simp at hequals
    exact ⟨p.2, congrArg (fun name => [(name, p.2)]) (String.toList_inj.mp hname)⟩
  · rintro ⟨value, rfl⟩
    have hp := h _ List.mem_cons_self
    rw [parametersText_singleton]
    exact ⟨⟨value.toList, by simp [parameterText]⟩, hp.not_mem_text (Or.inr rfl)⟩

/-! ## All fields -/

def versionFields (version : Option Nat) : List (List Char) :=
  version.toList.map fun n => 'v' :: '=' :: Nat.toDigits 10 n

def parametersFields (ps : List (String × String)) : List (List Char) :=
  if ps = [] then [] else [parametersText ps]

variable {version : Option Nat} {fs rest : List (List Char)}

theorem takeVersion_eq_some :
    takeVersion fs = some (version, rest) ↔ (∀ n ∈ version, n < numberBound) ∧
      (version = none → ∀ f ∈ rest.head?, isVersion f = false) ∧
      fs = versionFields version ++ rest := by
  constructor
  · intro h
    unfold takeVersion at h
    split at h
    · cases h
      simp [versionFields]
    · next f fs =>
      split at h
      · next hversion =>
        obtain ⟨n, hn, heq⟩ := Option.map_eq_some_iff.mp h
        cases heq
        obtain ⟨⟨digits, rfl⟩, -⟩ := isVersion_eq_true.mp hversion
        obtain ⟨rfl, hbound⟩ := number?_eq_some.mp hn
        simp [versionFields, hbound]
      · next hversion =>
        cases h
        simpa [versionFields] using hversion
  · rintro ⟨hbound, hhead, rfl⟩
    cases version with
    | some n =>
      have hdigits := (Json.digits_toDigits n).2
      have hversion : isVersion ('v' :: '=' :: Nat.toDigits 10 n) = true := by
        rw [isVersion_eq_true]
        refine ⟨⟨_, rfl⟩, ?_⟩
        simpa using not_mem_of_holds (d := ',') hdigits (by decide)
      simp [versionFields, takeVersion, hversion, number?_toDigits (hbound n rfl)]
    | none =>
      cases rest with
      | nil => rfl
      | cons f fs => simp [versionFields, takeVersion, hhead rfl f rfl]

theorem takeParameters_eq_some :
    takeParameters fs = some (ps, rest) ↔ (∀ p ∈ ps, IsParameter p) ∧
      (parametersText ps).length ≤ 127 ∧ (ps = [] → ∀ f ∈ rest.head?, '=' ∉ f) ∧
      fs = parametersFields ps ++ rest := by
  constructor
  · intro h
    unfold takeParameters at h
    split at h
    · cases h
      simp [parametersFields, parametersText]
    · next f fs =>
      split at h
      · obtain ⟨ps, hread, heq⟩ := Option.map_eq_some_iff.mp h
        cases heq
        obtain ⟨hne, hps, hshort, rfl⟩ := parameters?_eq_some.mp hread
        exact ⟨hps, hshort, fun hnil => absurd hnil hne, by simp [parametersFields, hne]⟩
      · next hequals =>
        cases h
        simpa [parametersFields, parametersText] using hequals
  · rintro ⟨hps, hshort, hhead, rfl⟩
    by_cases hne : ps = []
    · subst hne
      cases rest with
      | nil => rfl
      | cons f fs => simp [parametersFields, takeParameters, hhead rfl f rfl]
    · have hread := parameters?_eq_some.mpr ⟨hne, hps, hshort, rfl⟩
      simp [parametersFields, hne, takeParameters, equals_mem_parametersText hne, hread]

/-- The fields after the parameters. -/
def lastFields (salt : Option String) (digest : Option (List UInt8)) : List (List Char) :=
  salt.toList.map String.toList ++ digest.toList.map Base64.standard.encode

/-- Reads the fields after the parameters. -/
def lastOf? : List (List Char) → Option (Option String × Option (List UInt8))
  | [] => some (none, none)
  | [salt] => (salt? salt).map fun s => (some s, none)
  | [salt, digest] => (salt? salt).bind fun s => (digest? digest).map fun d => (some s, some d)
  | _ => none

variable {salt : Option String} {digest : Option (List UInt8)}

theorem lastOf?_eq_some :
    lastOf? fs = some (salt, digest) ↔
      (∀ s ∈ salt, IsSalt s) ∧ (∀ d ∈ digest, 10 ≤ d.length ∧ d.length ≤ 64) ∧
      (digest.isSome → salt.isSome) ∧ fs = lastFields salt digest := by
  constructor
  · intro h
    unfold lastOf? at h
    split at h
    · cases h
      simp [lastFields]
    · obtain ⟨s, hs, heq⟩ := Option.map_eq_some_iff.mp h
      cases heq
      obtain ⟨rfl, hsalt⟩ := salt?_eq_some.mp hs
      simpa [lastFields] using hsalt
    · obtain ⟨s, hs, h⟩ := Option.bind_eq_some_iff.mp h
      obtain ⟨d, hd, heq⟩ := Option.map_eq_some_iff.mp h
      cases heq
      obtain ⟨rfl, hsalt⟩ := salt?_eq_some.mp hs
      obtain ⟨rfl, hdigest⟩ := digest?_eq_some.mp hd
      simpa [lastFields] using ⟨hsalt, hdigest⟩
    · cases h
  · rintro ⟨hsalt, hdigest, hsalted, rfl⟩
    match salt, digest with
    | none, none => rfl
    | some s, none =>
      have hs := salt?_eq_some.mpr ⟨rfl, hsalt s rfl⟩
      simp [lastFields, lastOf?, hs]
    | some s, some d =>
      have hs := salt?_eq_some.mpr ⟨rfl, hsalt s rfl⟩
      have hd := digest?_eq_some.mpr ⟨rfl, hdigest d rfl⟩
      simp [lastFields, lastOf?, hs, hd]
    | none, some d => exact absurd (hsalted rfl) (by decide)

theorem not_mem_lastFields (hsalt : ∀ s ∈ salt, IsSalt s) {c : Char} (hc : isValueChar c = false) :
    ∀ f ∈ lastFields salt digest, c ∉ f := by
  intro f hf
  unfold lastFields at hf
  rw [List.mem_append, List.mem_map, List.mem_map] at hf
  rcases hf with ⟨s, hs, rfl⟩ | ⟨d, -, rfl⟩
  · have hs := hsalt s (Option.mem_toList.mp hs)
    exact not_mem_of_holds (isValueChar_of_isValue hs.value) hc
  · exact not_mem_of_holds isValueChar_of_mem_encode hc

/-- A hash that can be written. Without a version, a parameter `v` may not stand alone, since it
would be taken for the version. -/
structure IsWellFormed (h : Phc) : Prop where
  algorithm : isName h.algorithm.toList = true
  version : ∀ n ∈ h.version, n < numberBound
  parameters : ∀ p ∈ h.parameters, IsParameter p
  short : (parametersText h.parameters).length ≤ 127
  versionless : h.version = none → ∀ value, h.parameters ≠ [("v", value)]
  salt : ∀ s ∈ h.salt, IsSalt s
  digest : ∀ d ∈ h.digest, 10 ≤ d.length ∧ d.length ≤ 64
  salted : h.digest.isSome → h.salt.isSome

def allFields (h : Phc) : List (List Char) :=
  h.algorithm.toList :: (versionFields h.version ++
    (parametersFields h.parameters ++ lastFields h.salt h.digest))

variable {h : Phc}

theorem toList_intercalate (ps : List (String × String)) :
    (String.intercalate "," (ps.map fun (name, value) => name ++ "=" ++ value)).toList =
      parametersText ps := by
  have hparameter : ∀ p : String × String, (p.1 ++ "=" ++ p.2).toList = parameterText p := by
    intro p
    rw [String.toList_append, String.toList_append, List.append_assoc]
    rfl
  rw [String.toList_intercalate, List.map_map]
  exact congrArg [','].intercalate (List.map_congr_left fun p _ => hparameter p)

theorem map_toList_fields (h : Phc) :
    (h.algorithm :: h.fields).map String.toList = h.allFields := by
  obtain ⟨algorithm, version, ps, salt, digest⟩ := h
  have hversion : (version.map fun v => "v=" ++ toString v).toList.map String.toList =
      versionFields version := by
    cases version with
    | none => rfl
    | some n =>
      simp only [Option.map_some, Option.toList_some, List.map_cons, List.map_nil,
        String.toList_append, toList_toString]
      rfl
  have hparameters : (if ps.isEmpty then []
      else [String.intercalate "," (ps.map fun (k, v) => k ++ "=" ++ v)]).map String.toList =
        parametersFields ps := by
    unfold parametersFields
    by_cases hps : ps = []
    · simp [hps]
    · rw [if_neg hps, if_neg (by simpa using hps), ← toList_intercalate]
      rfl
  have hdigest : (digest.map fun d => String.ofList (Base64.standard.encode d)).toList.map
      String.toList = digest.toList.map Base64.standard.encode := by
    cases digest with
    | none => rfl
    | some d => simp
  unfold fields allFields lastFields
  simp only [List.map_cons, List.map_append, hversion, hparameters, hdigest, List.append_assoc]

theorem toList_toText (h : Phc) : h.toText.toList = h.allFields.flatMap ('$' :: ·) := by
  have hdollar : ∀ s : String, ("$" ++ s).toList = '$' :: s.toList := by
    intro s
    rw [String.toList_append]
    rfl
  unfold toText
  rw [String.toList_join, ← map_toList_fields, List.flatMap_map, List.flatMap_map]
  simp only [hdollar]

theorem parse?_of_splitOn {s : String} {algorithm : List Char}
    (hsplit : splitOn (· == '$') s.toList = [] :: algorithm :: fs)
    (hname : isName algorithm = true) :
    parse? s = (takeVersion fs).bind fun version => (takeParameters version.2).bind fun ps =>
      (lastOf? ps.2).map fun last =>
        ⟨String.ofList algorithm, version.1, ps.1, last.1, last.2⟩ := by
  unfold parse?
  rw [hsplit]
  simp only [hname, Bool.not_true, Bool.false_eq_true, if_false, Option.bind_eq_bind,
    Option.pure_def]
  refine Option.bind_congr fun version _ => Option.bind_congr fun ps _ => ?_
  rcases ps.2 with - | ⟨salt, - | ⟨digest, - | ⟨f, fs⟩⟩⟩
  · rfl
  · simp only [lastOf?]
    cases salt? salt <;> rfl
  · simp only [lastOf?]
    cases salt? salt <;> cases digest? digest <;> rfl
  · rfl

theorem exists_splitOn_of_parse? {s : String} (hread : parse? s = some h) :
    ∃ algorithm fs, splitOn (· == '$') s.toList = [] :: algorithm :: fs ∧
      isName algorithm = true := by
  unfold parse? at hread
  split at hread
  · next algorithm fs hsplit =>
    refine ⟨algorithm, fs, hsplit, ?_⟩
    by_contra hname
    simp [hname] at hread
  · cases hread

theorem parse?_eq_some_iff_fields {s : String} :
    parse? s = some h ↔ ∃ fs rest last,
      splitOn (· == '$') s.toList = [] :: h.algorithm.toList :: fs ∧
      isName h.algorithm.toList = true ∧ takeVersion fs = some (h.version, rest) ∧
      takeParameters rest = some (h.parameters, last) ∧ lastOf? last = some (h.salt, h.digest) := by
  constructor
  · intro hread
    obtain ⟨algorithm, fs, hsplit, hname⟩ := exists_splitOn_of_parse? hread
    rw [parse?_of_splitOn hsplit hname] at hread
    obtain ⟨⟨version, rest⟩, hversion, hread⟩ := Option.bind_eq_some_iff.mp hread
    obtain ⟨⟨ps, last⟩, hps, hread⟩ := Option.bind_eq_some_iff.mp hread
    obtain ⟨⟨salt, digest⟩, hlast, rfl⟩ := Option.map_eq_some_iff.mp hread
    rw [String.toList_ofList]
    exact ⟨fs, rest, last, hsplit, hname, hversion, hps, hlast⟩
  · rintro ⟨fs, rest, last, hsplit, hname, hversion, hps, hlast⟩
    simp [parse?_of_splitOn hsplit hname, hversion, hps, hlast]

theorem IsWellFormed.not_mem_allFields (hw : h.IsWellFormed) : ∀ f ∈ h.allFields, '$' ∉ f := by
  intro f hf
  unfold allFields versionFields parametersFields at hf
  rw [List.mem_cons, List.mem_append, List.mem_append, List.mem_map] at hf
  rcases hf with rfl | ⟨n, -, rfl⟩ | hf | hf
  · exact not_mem_of_holds (isNameChar_of_isName hw.algorithm) (by decide)
  · simpa using not_mem_of_holds (d := '$') (Json.digits_toDigits n).2 (by decide)
  · split at hf
    · cases hf
    · rw [List.mem_singleton.mp hf]
      exact dollar_not_mem_parametersText hw.parameters
  · exact not_mem_lastFields hw.salt (by decide) f hf

/-- The first field after the algorithm is a version only if it was written as one. -/
theorem IsWellFormed.isVersion_head (hw : h.IsWellFormed) (hnone : h.version = none) :
    ∀ f ∈ (parametersFields h.parameters ++ lastFields h.salt h.digest).head?,
      isVersion f = false := by
  intro f hf
  rw [← Bool.not_eq_true]
  intro hversion
  unfold parametersFields at hf
  split at hf
  · obtain ⟨⟨rest, rfl⟩, -⟩ := isVersion_eq_true.mp hversion
    refine not_mem_lastFields (c := '=') hw.salt (by decide) _ (List.mem_of_mem_head? hf) ?_
    simp
  · next hne =>
    cases hf
    obtain ⟨value, hvalue⟩ := (isVersion_parametersText hne hw.parameters).mp hversion
    exact hw.versionless hnone value hvalue

/-- A text is read as a hash if the hash can be written and the text is its text form, and not
otherwise. -/
theorem parse?_eq_some {s : String} : parse? s = some h ↔ h.IsWellFormed ∧ h.toText = s := by
  rw [parse?_eq_some_iff_fields]
  constructor
  · rintro ⟨fs, rest, last, hsplit, hname, hversion, hparameters, hlast⟩
    obtain ⟨hbound, hhead, rfl⟩ := takeVersion_eq_some.mp hversion
    obtain ⟨hps, hshort, -, rfl⟩ := takeParameters_eq_some.mp hparameters
    obtain ⟨hsalt, hdigest, hsalted, rfl⟩ := lastOf?_eq_some.mp hlast
    obtain ⟨htext, -⟩ := splitOn_eq_cons.mp hsplit
    refine ⟨⟨hname, hbound, hps, hshort, ?_, hsalt, hdigest, hsalted⟩, ?_⟩
    · intro hnone value hvalue
      have hne : h.parameters ≠ [] := by simp [hvalue]
      have hversion := (isVersion_parametersText hne hps).mpr ⟨value, hvalue⟩
      rw [hhead hnone (parametersText h.parameters) (by simp [parametersFields, hne])] at hversion
      cases hversion
    · rw [← String.toList_inj, toList_toText, htext]
      rfl
  · rintro ⟨hw, rfl⟩
    refine ⟨_, _, _, ?_, hw.algorithm,
      takeVersion_eq_some.mpr ⟨hw.version, hw.isVersion_head, rfl⟩,
      takeParameters_eq_some.mpr ⟨hw.parameters, hw.short, fun _ f hf => ?_, rfl⟩,
      lastOf?_eq_some.mpr ⟨hw.salt, hw.digest, hw.salted, rfl⟩⟩
    · -- The text starts with a separator, so the first field is empty.
      rw [splitOn_eq_cons, toList_toText, List.forall_mem_cons]
      exact ⟨rfl, List.not_mem_nil, hw.not_mem_allFields⟩
    · exact not_mem_lastFields hw.salt (by decide) f (List.mem_of_mem_head? hf)

end Phc

end Secret

end Gatehouse
