import Gatehouse.Proofs.Ascii
import Gatehouse.Text.Lowercase
import Mathlib

/-!
# Lower-casing

Lower-casing a text twice is lower-casing it once (`lowercase_lowercase`), because no code point
that a run of the case table maps to is mapped by any run (`image_misses_lowerRuns`) and neither
form of the small sigma is mapped at all. Capital letters of ASCII may be put in lower case before
that (`lowercase_of_sameIgnoringCase`): they are cased letters in both forms, so that what stands
beside them is mapped alike.
-/

namespace Gatehouse.Text

variable {r q : CaseRun} {n m : Nat} {c d : Char} {before l : List Char} {s t : String}

/-! ## Runs of the case table -/

theorem CaseRun.covers_eq_true :
    r.covers n = true ↔ (r.first ≤ n ∧ n ≤ r.last) ∧ (n - r.first) % r.step = 0 := by
  unfold covers
  simp

/-- The code points that a run maps to, as a run of their own. -/
def CaseRun.image (r : CaseRun) : CaseRun :=
  ⟨(r.first + r.shift).toNat, (r.last + r.shift).toNat, r.step, 0⟩

/-- Nothing is mapped to a slash or to anything before it. -/
theorem slash_lt_image : ∀ r ∈ lowerRuns, '/'.toNat < r.image.first := by decide +kernel

theorem CaseRun.image_covers (h : r.covers n = true) (hpos : 0 < r.image.first) :
    r.image.covers (n + r.shift).toNat = true := by
  rw [covers_eq_true] at h ⊢
  unfold image at hpos ⊢
  dsimp only at hpos ⊢
  have hoffset : (n + r.shift).toNat - (r.first + r.shift).toNat = n - r.first := by omega
  rw [hoffset]
  exact ⟨by omega, h.2⟩

theorem lowerPoint_eq_self (h : ∀ r ∈ lowerRuns, r.covers n = false) : lowerPoint n = n := by
  have hnone : lowerRuns.find? (·.covers n) = none := by simpa using h
  unfold lowerPoint
  rw [hnone]

/-- A code point is mapped by a run, or stands for itself when no run covers it. -/
theorem lowerPoint_cases (n : Nat) :
    (lowerPoint n = n ∧ ∀ r ∈ lowerRuns, r.covers n = false) ∨
      ∃ r ∈ lowerRuns, r.image.covers (lowerPoint n) = true := by
  cases hfind : lowerRuns.find? (·.covers n) with
  | none =>
    have hruns : ∀ r ∈ lowerRuns, r.covers n = false := by simpa using hfind
    exact Or.inl ⟨lowerPoint_eq_self hruns, hruns⟩
  | some r =>
    have hr : r ∈ lowerRuns := List.mem_of_find?_eq_some hfind
    have hcovers : r.covers n = true := by simpa using List.find?_some hfind
    unfold lowerPoint
    rw [hfind]
    exact Or.inr ⟨r, hr, CaseRun.image_covers hcovers (Nat.zero_lt_of_lt (slash_lt_image r hr))⟩

/-- The first run lies outside of the second one, or among the code points that the second one
steps over. -/
def CaseRun.misses (r q : CaseRun) : Bool :=
  Nat.blt r.last q.first || Nat.blt q.last r.first ||
    (q.step == 2 && (r.step == 2 || r.first == r.last) && (r.first + q.first) % 2 == 1)

theorem CaseRun.covers_eq_false_of_misses (h : r.misses q = true) (hr : r.covers n = true) :
    q.covers n = false := by
  rw [← Bool.not_eq_true, covers_eq_true]
  rintro ⟨⟨hfirst, hlast⟩, hstep⟩
  obtain ⟨⟨hfirst', hlast'⟩, hstep'⟩ := covers_eq_true.mp hr
  unfold misses at h
  simp only [Bool.or_eq_true, Bool.and_eq_true, Nat.blt_eq, beq_iff_eq] at h
  rcases h with (hbelow | habove) | ⟨⟨hq, hr | hr⟩, hodd⟩
  · omega
  · omega
  · rw [hq] at hstep
    rw [hr] at hstep'
    omega
  · rw [hq] at hstep
    omega

/-- The capital I with a dot as a run of its own. It is not in the table, because its lower-case
form is two characters. -/
def dottedRun : CaseRun := ⟨0x130, 0x130, 2, 0⟩

theorem image_misses_lowerRuns :
    (lowerRuns.all fun r => (dottedRun :: lowerRuns).all fun q => r.image.misses q) = true := by
  decide +kernel

/-! ## Characters in lower case -/

/-- A character that lower-casing leaves as it is, wherever it stands. -/
def IsLower (c : Char) : Prop := c ≠ 'Σ' ∧ lowerChar c = [c]

instance (c : Char) : Decidable (IsLower c) := inferInstanceAs (Decidable (_ ∧ _))

theorem covers_sigma : lowerRuns.any (·.covers 'Σ'.toNat) = true := by decide +kernel

/-- A code point that no run covers is in lower case, and so is what a number stands for that is no
code point. -/
theorem isLower_ofNat (hdotted : m ≠ 0x130) (h : ∀ r ∈ lowerRuns, r.covers m = false) :
    IsLower (Char.ofNat m) := by
  by_cases hvalid : m.isValidChar
  · have hm : (Char.ofNat m).toNat = m := by rw [Char.toNat_ofNat, if_pos hvalid]
    constructor
    · intro hsigma
      obtain ⟨r, hr, hcovers⟩ := List.any_eq_true.mp covers_sigma
      rw [← hsigma, hm, h r hr] at hcovers
      cases hcovers
    · unfold lowerChar
      rw [hm, if_neg hdotted, lowerPoint_eq_self h]
  · have hnull : Char.ofNat m = '\x00' := by
      unfold Char.ofNat
      rw [dif_neg hvalid]
      rfl
    rw [hnull]
    decide +kernel

theorem isLower_of_mem_lowerChar (hd : d ∈ lowerChar c) : IsLower d := by
  unfold lowerChar at hd
  by_cases hdotted : c.toNat = 0x130
  · have hi : IsLower 'i' := by decide +kernel
    have hdot : IsLower '\u0307' := by decide +kernel
    rw [if_pos hdotted, List.mem_cons, List.mem_singleton] at hd
    rcases hd with rfl | rfl
    · exact hi
    · exact hdot
  · rw [if_neg hdotted, List.mem_singleton] at hd
    subst hd
    rcases lowerPoint_cases c.toNat with ⟨hsame, hruns⟩ | ⟨r, hr, hcovers⟩
    · rw [hsame]
      exact isLower_ofNat hdotted hruns
    · -- What a run maps to is covered by no run, and is not the dotted I either.
      have hmisses : ∀ q ∈ dottedRun :: lowerRuns, q.covers (lowerPoint c.toNat) = false := by
        intro q hq
        have hall := List.all_eq_true.mp (List.all_eq_true.mp image_misses_lowerRuns r hr) q hq
        exact CaseRun.covers_eq_false_of_misses hall hcovers
      obtain ⟨hdot, hruns⟩ := List.forall_mem_cons.mp hmisses
      refine isLower_ofNat (fun h => ?_) hruns
      rw [h] at hdot
      exact absurd hdot (by decide)

/-! ## Lower-casing twice -/

theorem isLower_of_mem_lowerFrom (h : d ∈ lowerFrom before l) : IsLower d := by
  induction l generalizing before with
  | nil => cases h
  | cons c l ih =>
    rw [lowerFrom] at h
    by_cases hc : c = 'Σ'
    · have hsigmas : IsLower 'ς' ∧ IsLower 'σ' := by decide +kernel
      rw [if_pos hc] at h
      rcases List.mem_cons.mp h with rfl | h
      · split
        · exact hsigmas.1
        · exact hsigmas.2
      · exact ih h
    · rw [if_neg hc] at h
      rcases List.mem_append.mp h with h | h
      · exact isLower_of_mem_lowerChar h
      · exact ih h

theorem lowerFrom_eq_self (h : ∀ c ∈ l, IsLower c) : lowerFrom before l = l := by
  induction l generalizing before with
  | nil => rfl
  | cons c l ih =>
    obtain ⟨⟨hsigma, hsame⟩, hl⟩ := List.forall_mem_cons.mp h
    rw [lowerFrom, if_neg hsigma, hsame, ih hl, List.singleton_append]

theorem isLower_of_mem_lowercase (h : c ∈ (lowercase s).toList) : IsLower c := by
  unfold lowercase at h
  rw [String.toList_ofList] at h
  exact isLower_of_mem_lowerFrom h

theorem lowercase_eq_self (h : ∀ c ∈ s.toList, IsLower c) : lowercase s = s := by
  unfold lowercase
  rw [lowerFrom_eq_self h, String.ofList_toList]

theorem lowercase_lowercase (s : String) : lowercase (lowercase s) = lowercase s :=
  lowercase_eq_self fun _ => isLower_of_mem_lowercase

/-- Nothing disappears when it is lower-cased. -/
theorem lowerFrom_eq_nil : lowerFrom before l = [] ↔ l = [] := by
  cases l with
  | nil => exact iff_of_true rfl rfl
  | cons c rest =>
    have hchar : lowerChar c ≠ [] := by
      unfold lowerChar
      split <;> exact List.cons_ne_nil _ _
    refine iff_of_false ?_ (List.cons_ne_nil _ _)
    unfold lowerFrom
    split
    · exact List.cons_ne_nil _ _
    · exact List.append_ne_nil_of_left_ne_nil hchar _

/-! ## Letters of ASCII -/

/-- What is true of every character beside itself, and of every capital letter beside the small one,
is true of every character beside its form in lower case. -/
theorem lowerAscii_induction {P : Char → Char → Prop} (hsame : ∀ c, P c c)
    (hcapital : ∀ n ≤ 90, 65 ≤ n → P (Char.ofNat n) (Char.ofNat (n + 32))) (c : Char) :
    P c (lowerAscii c) := by
  unfold lowerAscii
  split
  · next h =>
    rw [Bool.and_eq_true, decide_eq_true_eq, decide_eq_true_eq, le_iff_toNat_le,
      le_iff_toNat_le] at h
    have hletter := hcapital c.toNat h.2 h.1
    rwa [Char.ofNat_toNat] at hletter
  · exact hsame c

theorem lowerChar_lowerAscii (c : Char) : lowerChar (lowerAscii c) = lowerChar c :=
  lowerAscii_induction (P := fun c d => lowerChar d = lowerChar c) (fun _ => rfl)
    (by decide +kernel) c

theorem isCased_lowerAscii (c : Char) : isCased (lowerAscii c) = isCased c :=
  lowerAscii_induction (P := fun c d => isCased d = isCased c) (fun _ => rfl) (by decide +kernel) c

theorem isCaseIgnorable_lowerAscii (c : Char) :
    isCaseIgnorable (lowerAscii c) = isCaseIgnorable c :=
  lowerAscii_induction (P := fun c d => isCaseIgnorable d = isCaseIgnorable c) (fun _ => rfl)
    (by decide +kernel) c

theorem lowerAscii_eq_sigma : lowerAscii c = 'Σ' ↔ c = 'Σ' := by
  constructor
  · intro h
    exact eq_of_lowerAscii h (by decide)
  · rintro rfl
    decide

theorem startsCased_map_lowerAscii (l : List Char) :
    startsCased (l.map lowerAscii) = startsCased l := by
  induction l with
  | nil => rfl
  | cons c l ih =>
    unfold startsCased at ih ⊢
    rw [List.map_cons, List.dropWhile_cons, List.dropWhile_cons, isCaseIgnorable_lowerAscii]
    by_cases hc : isCaseIgnorable c = true
    · rw [if_pos hc, if_pos hc]
      exact ih
    · rw [if_neg hc, if_neg hc]
      exact isCased_lowerAscii c

theorem lowerFrom_map_lowerAscii (before l : List Char) :
    lowerFrom (before.map lowerAscii) (l.map lowerAscii) = lowerFrom before l := by
  induction l generalizing before with
  | nil => rfl
  | cons c l ih =>
    -- What stands before a sigma counts as well, so that it is put in lower case along with the rest.
    have hrest := ih (c :: before)
    rw [List.map_cons] at hrest
    rw [List.map_cons, lowerFrom, lowerFrom, startsCased_map_lowerAscii, startsCased_map_lowerAscii,
      hrest, lowerChar_lowerAscii]
    simp only [lowerAscii_eq_sigma]

theorem lowercase_of_sameIgnoringCase (h : sameIgnoringCase s t = true) :
    lowercase s = lowercase t := by
  unfold sameIgnoringCase at h
  unfold lowercase
  rw [← lowerFrom_map_lowerAscii [] s.toList, ← lowerFrom_map_lowerAscii [] t.toList, eq_of_beq h]

end Gatehouse.Text
