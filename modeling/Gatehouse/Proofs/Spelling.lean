import Gatehouse.Proofs.Uuid
import Mathlib.Data.List.Induction

/-!
# The spellings of an identifier

An identifier has four spellings, up to the case of letters: its digits alone, its written form, and
the written form in braces or after `urn:uuid:`. These are exactly the texts that are read as it
(`Uuid.parse?_eq_some`).
-/

namespace Gatehouse

open Text

/-! ## Digits of either case -/

namespace Encoding

theorem hexValue?_ascii : ∀ n < 128, ∀ d < 16, hexValue? (Char.ofNat n) = some d ↔
    lowerAscii (Char.ofNat n) = hexDigit d := by
  decide +kernel

theorem hexValue?_lt_ascii : ∀ n < 128, ∀ d ∈ hexValue? (Char.ofNat n), d < 16 := by
  decide +kernel

theorem hexDigit_lt_ascii : ∀ d < 16, (hexDigit d).toNat < 128 := by decide

theorem hexValue?_of_high {c : Char} (h : 128 ≤ c.toNat) : hexValue? c = none := by
  have hnot : ∀ d : Char, d.toNat < 128 → ¬c ≤ d := fun d => not_le_of_high h
  unfold hexValue?
  simp [hnot '9' (by decide), hnot 'f' (by decide), hnot 'F' (by decide)]

theorem hexValue?_eq_some {c : Char} {d : Nat} :
    hexValue? c = some d ↔ d < 16 ∧ lowerAscii c = hexDigit d := by
  by_cases hascii : c.toNat < 128
  · rw [← Char.ofNat_toNat c]
    constructor
    · intro h
      have hd : d < 16 := hexValue?_lt_ascii c.toNat hascii d h
      exact ⟨hd, (hexValue?_ascii c.toNat hascii d hd).mp h⟩
    · rintro ⟨hd, h⟩
      exact (hexValue?_ascii c.toNat hascii d hd).mpr h
  · rw [hexValue?_of_high (by omega), lowerAscii_of_high (by omega)]
    constructor
    · intro h
      cases h
    · rintro ⟨hd, rfl⟩
      exact absurd (hexDigit_lt_ascii d hd) hascii

/-- Digits are read as a number exactly if they are its lowest ones, and it has no others. -/
theorem hexNumber?_eq_some {cs : List Char} {n : Nat} :
    hexNumber? cs = some n ↔ n < 16 ^ cs.length ∧ cs.map lowerAscii = hexDigits cs.length n := by
  induction cs using List.reverseRecOn generalizing n with
  | nil =>
    rw [List.length_nil, Nat.pow_zero, Nat.lt_one_iff]
    simp [hexNumber?, hexDigits, eq_comm]
  | append_singleton cs c ih =>
    have hsplit : ∀ m d, d < 16 → (16 * m + d) / 16 = m ∧ (16 * m + d) % 16 = d := by
      intro m d hd
      omega
    rw [hexNumber?_append_singleton, List.length_append, List.length_singleton, hexDigits,
      Nat.pow_succ, List.map_append, List.map_singleton]
    simp only [Option.bind_eq_bind, Option.bind_eq_some_iff, Option.pure_def, Option.some_inj, ih,
      hexValue?_eq_some]
    constructor
    · rintro ⟨m, ⟨hm, hcs⟩, d, ⟨hd, hc⟩, rfl⟩
      obtain ⟨hdiv, hmod⟩ := hsplit m d hd
      rw [hdiv, hmod, hcs, hc]
      exact ⟨by omega, rfl⟩
    · rintro ⟨hn, h⟩
      obtain ⟨hcs, hc⟩ := List.append_inj' h rfl
      refine ⟨n / 16, ⟨by omega, hcs⟩, n % 16, ⟨by omega, List.singleton_inj.mp hc⟩, by omega⟩

end Encoding

open Encoding

/-! ## Spellings -/

namespace Uuid

variable {u v : Uuid} {cs ds : List Char}

/-- The spellings of an identifier in lower case: without hyphens, with them, in braces, and after
`urn:uuid:`. -/
def spellings (u : Uuid) : List (List Char) :=
  [hexDigits 32 u.bits.toNat, u.toChars, '\x7b' :: (u.toChars ++ ['\x7d']),
    "urn:uuid:".toList ++ u.toChars]

/-- A text spells an identifier, with letters of either case. -/
def IsSpelling (u : Uuid) (s : String) : Prop := s.toList.map lowerAscii ∈ u.spellings

theorem ofDigits?_eq_some :
    ofDigits? cs = some u ↔ cs.map lowerAscii = hexDigits 32 u.bits.toNat := by
  unfold ofDigits?
  constructor
  · intro h
    split at h
    · next hlength =>
      obtain ⟨n, hn, rfl⟩ := Option.map_eq_some_iff.mp h
      rw [hexNumber?_eq_some, hlength] at hn
      rw [hn.2, BitVec.toNat_ofNat, Nat.mod_eq_of_lt]
      exact hn.1
    · cases h
  · intro h
    have hlength : cs.length = 32 := by
      rw [← List.length_map (f := lowerAscii), h, length_hexDigits]
    have hnumber : hexNumber? cs = some u.bits.toNat := by
      rw [hexNumber?_eq_some, hlength]
      exact ⟨u.bits.isLt, h⟩
    rw [if_pos hlength, hnumber]
    simp

/-- Digits with hyphens after the places where the written form has them. -/
def hyphenated (ds : List Char) : List Char :=
  ds.take 8 ++ ['-'] ++ (ds.drop 8).take 4 ++ ['-'] ++ (ds.drop 12).take 4 ++ ['-'] ++
    (ds.drop 16).take 4 ++ ['-'] ++ ds.drop 20

theorem map_hyphenated (ds : List Char) :
    (hyphenated ds).map lowerAscii = hyphenated (ds.map lowerAscii) := by
  have hhyphen : lowerAscii '-' = '-' := by decide
  simp [hyphenated, hhyphen]

theorem hyphenated_of_groups? (h : groups? cs = some ds) : cs = hyphenated ds := by
  unfold groups? at h
  split at h
  · next a b c d e hsplit =>
    obtain ⟨hcs, -⟩ := splitOn_eq_cons.mp hsplit
    split at h
    · next hlength =>
      simp only [Bool.and_eq_true, decide_eq_true_eq] at hlength
      obtain ⟨⟨⟨⟨ha, hb⟩, hc⟩, hd⟩, -⟩ := hlength
      cases h
      rw [hcs]
      simp (disch := omega) [hyphenated, List.drop_append, List.drop_of_length_le, ha, hb, hc]
    · cases h
  · cases h

/-- The case of letters does not matter for the hyphens between them. -/
theorem groups?_map (cs : List Char) :
    groups? (cs.map lowerAscii) = (groups? cs).map (·.map lowerAscii) := by
  have hhyphen : (fun c => lowerAscii c == '-') = (· == '-') := by
    funext c
    rw [Bool.eq_iff_iff, beq_iff_eq, beq_iff_eq]
    constructor
    · intro h
      exact eq_of_lowerAscii h (by decide)
    · rintro rfl
      decide
  unfold groups?
  rw [splitOn_map, hhyphen]
  generalize splitOn (· == '-') cs = parts
  match parts with
  | [] | [_] | [_, _] | [_, _, _] | [_, _, _, _] | _ :: _ :: _ :: _ :: _ :: _ :: _ => rfl
  | [a, b, c, d, e] =>
    simp only [List.map_cons, List.map_nil, List.length_map]
    split
    · simp
    · rfl

theorem ofHyphenated?_eq_some : ofHyphenated? cs = some u ↔ cs.map lowerAscii = u.toChars := by
  have hchars : u.toChars = hyphenated (hexDigits 32 u.bits.toNat) := rfl
  unfold ofHyphenated?
  rw [Option.bind_eq_some_iff]
  constructor
  · rintro ⟨ds, hgroups, hdigits⟩
    rw [hyphenated_of_groups? hgroups, map_hyphenated, ofDigits?_eq_some.mp hdigits, hchars]
  · intro h
    have hgroups : (groups? cs).map (·.map lowerAscii) = some (hexDigits 32 u.bits.toNat) := by
      rw [← groups?_map, h, groups?_toChars]
    obtain ⟨ds, hds, hlower⟩ := Option.map_eq_some_iff.mp hgroups
    exact ⟨ds, hds, ofDigits?_eq_some.mpr hlower⟩

theorem inBraces_eq_some : (insideBraces? cs).bind ofHyphenated? = some u ↔
    cs.map lowerAscii = '\x7b' :: (u.toChars ++ ['\x7d']) := by
  unfold insideBraces?
  simp only [Option.bind_eq_bind, Option.bind_eq_some_iff, afterStart?_eq_some,
    beforeEnd?_eq_some, ofHyphenated?_eq_some]
  constructor
  · rintro ⟨inner, ⟨rest, rfl, rfl⟩, h⟩
    have hbraces : lowerAscii '\x7b' = '\x7b' ∧ lowerAscii '\x7d' = '\x7d' := by decide
    simp [h, hbraces]
  · intro h
    obtain ⟨c, rest, rfl, hc, hrest⟩ := List.map_eq_cons_iff.mp h
    obtain ⟨inner, last, rfl, hinner, hlast⟩ := List.map_eq_append_iff.mp hrest
    obtain ⟨d, tail, rfl, hd, htail⟩ := List.map_eq_cons_iff.mp hlast
    cases List.map_eq_nil_iff.mp htail
    cases eq_of_lowerAscii hc (by decide)
    cases eq_of_lowerAscii hd (by decide)
    exact ⟨inner, ⟨_, rfl, rfl⟩, hinner⟩

theorem afterUrn_eq_some : (afterUrn? cs).bind ofHyphenated? = some u ↔
    cs.map lowerAscii = "urn:uuid:".toList ++ u.toChars := by
  have hparts : cs.map lowerAscii = (cs.take 9).map lowerAscii ++ (cs.drop 9).map lowerAscii := by
    rw [← List.map_append, List.take_append_drop]
  unfold afterUrn?
  constructor
  · intro h
    split at h
    · next hurn =>
      rw [Option.bind_some, ofHyphenated?_eq_some] at h
      rw [hparts, hurn, h]
    · cases h
  · intro h
    have hlength : ((cs.take 9).map lowerAscii).length = "urn:uuid:".toList.length := by
      have hlong := congrArg List.length h
      rw [List.length_map, List.length_append, length_toChars] at hlong
      rw [List.length_map, List.length_take, hlong]
      decide
    obtain ⟨hurn, hrest⟩ := List.append_inj (hparts.symm.trans h) hlength
    rw [if_pos hurn, Option.bind_some, ofHyphenated?_eq_some, hrest]

/-! ## Reading -/

theorem length_of_ofDigits? (h : ofDigits? cs = some u) : cs.length = 32 := by
  rw [← List.length_map (f := lowerAscii), ofDigits?_eq_some.mp h, length_hexDigits]

theorem length_of_ofHyphenated? (h : ofHyphenated? cs = some u) : cs.length = 36 := by
  rw [← List.length_map (f := lowerAscii), ofHyphenated?_eq_some.mp h, length_toChars]

theorem length_of_inBraces (h : (insideBraces? cs).bind ofHyphenated? = some u) :
    cs.length = 38 := by
  rw [← List.length_map (f := lowerAscii), inBraces_eq_some.mp h]
  simp [length_toChars]

theorem length_of_afterUrn (h : (afterUrn? cs).bind ofHyphenated? = some u) : cs.length = 45 := by
  rw [← List.length_map (f := lowerAscii), afterUrn_eq_some.mp h]
  simp [length_toChars]

/-- Of two readings that never succeed together it does not matter which is tried first. -/
theorem orElse_eq_some {x y : Option Uuid} (h : ∀ v w, x = some v → y ≠ some w) :
    (x <|> y) = some u ↔ x = some u ∨ y = some u := by
  cases x with
  | none => simp
  | some v =>
    have hy : y ≠ some u := h v u rfl
    simp [hy]

theorem wrapped_eq_some :
    ((insideBraces? cs).bind ofHyphenated? <|> (afterUrn? cs).bind ofHyphenated?) = some u ↔
      (insideBraces? cs).bind ofHyphenated? = some u ∨
        (afterUrn? cs).bind ofHyphenated? = some u := by
  apply orElse_eq_some
  intro v w hv hw
  have hbraces := length_of_inBraces hv
  have hurn := length_of_afterUrn hw
  omega

theorem written_eq_some :
    (ofHyphenated? cs <|> (insideBraces? cs).bind ofHyphenated? <|>
      (afterUrn? cs).bind ofHyphenated?) = some u ↔
      ofHyphenated? cs = some u ∨ (insideBraces? cs).bind ofHyphenated? = some u ∨
        (afterUrn? cs).bind ofHyphenated? = some u := by
  rw [← wrapped_eq_some]
  apply orElse_eq_some
  intro v w hv hw
  have hhyphens := length_of_ofHyphenated? hv
  rcases wrapped_eq_some.mp hw with hw | hw
  · have hbraces := length_of_inBraces hw
    omega
  · have hurn := length_of_afterUrn hw
    omega

/-- The texts that are read as an identifier are exactly its spellings. -/
theorem parse?_eq_some {s : String} : parse? s = some u ↔ u.IsSpelling s := by
  unfold parse? IsSpelling spellings
  dsimp only
  generalize s.toList = cs
  rw [orElse_eq_some, written_eq_some, ofDigits?_eq_some, ofHyphenated?_eq_some, inBraces_eq_some,
    afterUrn_eq_some]
  · simp
  · -- The spellings differ in length, so no text is read in two ways.
    intro v w hv hw
    have hdigits := length_of_ofDigits? hv
    rcases written_eq_some.mp hw with hw | hw | hw
    · have hhyphens := length_of_ofHyphenated? hw
      omega
    · have hbraces := length_of_inBraces hw
      omega
    · have hurn := length_of_afterUrn hw
      omega

end Uuid

end Gatehouse
