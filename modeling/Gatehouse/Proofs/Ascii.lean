import Gatehouse.Text.Ascii
import Mathlib.Data.List.Basic

/-!
# Letters, and lists in parts

Only capital letters of ASCII have another lower-case form than themselves. A list falls into parts
at its separators, and is put together from them again: splitting and joining are inverse as long as
no part contains a separator (`splitOn_eq_cons`). Taking off what a list starts or ends with is the
inverse of appending it.
-/

namespace Gatehouse.Text

/-! ## Characters -/

theorem le_iff_toNat_le {c d : Char} : c ≤ d ↔ c.toNat ≤ d.toNat := by
  rw [Char.le_def, UInt32.le_iff_toNat_le, Char.toNat_val, Char.toNat_val]

theorem not_le_of_high {c d : Char} (hc : 128 ≤ c.toNat) (hd : d.toNat < 128) : ¬c ≤ d := by
  rw [le_iff_toNat_le]
  omega

theorem lowerAscii_of_high {c : Char} (h : 128 ≤ c.toNat) : lowerAscii c = c := by
  unfold lowerAscii
  simp [not_le_of_high (d := 'Z') h (by decide)]

/-- A character that no capital letter stands for is the lower-case form of itself only. -/
theorem eq_of_lowerAscii {c d : Char} (h : lowerAscii c = d) (hd : (d ≤ '`' || 'z' < d) = true) :
    c = d := by
  unfold lowerAscii at h
  split at h
  · next hletter =>
    have hcapital : ∀ n ≤ 90, 65 ≤ n →
        (Char.ofNat (n + 32) ≤ '`' || 'z' < Char.ofNat (n + 32)) = false := by decide
    rw [Bool.and_eq_true, decide_eq_true_eq, decide_eq_true_eq] at hletter
    obtain ⟨hge, hle⟩ := hletter
    rw [le_iff_toNat_le] at hge hle
    rw [← h, hcapital c.toNat hle hge] at hd
    cases hd
  · exact h

variable {α : Type} {p : α → Bool}

theorem not_mem_of_any {c : α} {l : List α} (hnone : l.any p = false) (hc : p c = true) : c ∉ l := by
  rw [List.any_eq_false] at hnone
  exact fun hmem => hnone c hmem hc

/-! ## Splitting -/

theorem splitOn_ne_nil (p : α → Bool) (l : List α) : splitOn p l ≠ [] := by
  cases l with
  | nil => simp [splitOn]
  | cons c l =>
    rw [splitOn]
    split
    · simp
    · split <;> simp

/-- A list without separators is its only part. -/
theorem splitOn_of_forall_not {l : List α} (h : ∀ c ∈ l, p c = false) : splitOn p l = [l] := by
  induction l with
  | nil => rfl
  | cons c l ih =>
    rw [splitOn, h c List.mem_cons_self, ih fun d hd => h d (List.mem_cons_of_mem c hd)]
    rfl

/-- The first part ends at the first separator. -/
theorem splitOn_append_cons {l : List α} (h : ∀ c ∈ l, p c = false) {s : α} (hs : p s = true)
    (rest : List α) : splitOn p (l ++ s :: rest) = l :: splitOn p rest := by
  induction l with
  | nil => rw [List.nil_append, splitOn, if_pos hs]
  | cons c l ih =>
    rw [List.cons_append, splitOn, h c List.mem_cons_self,
      ih fun d hd => h d (List.mem_cons_of_mem c hd)]
    rfl

/-- A list that was put together with separators falls into its parts. -/
theorem splitOn_append_flatMap {s : α} (hs : p s = true) (l : List α) (ls : List (List α))
    (hl : ∀ c ∈ l, p c = false) (hls : ∀ part ∈ ls, ∀ c ∈ part, p c = false) :
    splitOn p (l ++ ls.flatMap (s :: ·)) = l :: ls := by
  induction ls generalizing l with
  | nil => rw [List.flatMap_nil, List.append_nil, splitOn_of_forall_not hl]
  | cons l' ls ih =>
    obtain ⟨hl', hls⟩ := List.forall_mem_cons.mp hls
    rw [List.flatMap_cons, List.cons_append, splitOn_append_cons hl hs, ih l' hl' hls]

theorem splitOn_map {β : Type} (p : β → Bool) (f : α → β) (l : List α) :
    splitOn p (l.map f) = (splitOn (fun c => p (f c)) l).map (·.map f) := by
  induction l with
  | nil => rfl
  | cons c l ih =>
    rw [List.map_cons, splitOn, splitOn, ih]
    split
    · rfl
    · cases splitOn (fun c => p (f c)) l with
      | nil => rfl
      | cons part parts => rfl

/-! ## Joining -/

theorem intercalate_singleton (s : α) (l : List α) (ls : List (List α)) :
    [s].intercalate (l :: ls) = l ++ ls.flatMap (s :: ·) := by
  induction ls generalizing l with
  | nil => simp
  | cons l' ls ih => simp [List.intercalate_cons_cons, ih]

theorem mem_intercalate_singleton {s c : α} {ls : List (List α)} (h : c ∈ [s].intercalate ls) :
    c = s ∨ ∃ l ∈ ls, c ∈ l := by
  cases ls with
  | nil => cases h
  | cons l ls =>
    rw [intercalate_singleton, List.mem_append, List.mem_flatMap] at h
    rcases h with hc | ⟨l', hl', hc⟩
    · exact Or.inr ⟨l, List.mem_cons_self, hc⟩
    · rcases List.mem_cons.mp hc with rfl | hc
      · exact Or.inl rfl
      · exact Or.inr ⟨l', List.mem_cons_of_mem l hl', hc⟩

section Separator

variable [BEq α] [LawfulBEq α] {s : α} {l part : List α} {parts : List (List α)}

theorem not_mem_of_mem_splitOn (h : part ∈ splitOn (· == s) l) : s ∉ part := by
  induction l generalizing part with
  | nil =>
    rw [splitOn, List.mem_singleton] at h
    simp [h]
  | cons c l ih =>
    rw [splitOn] at h
    split at h
    · rcases List.mem_cons.mp h with rfl | h
      · exact List.not_mem_nil
      · exact ih h
    · next hc =>
      have hne : s ≠ c := by
        rintro rfl
        exact hc (beq_self_eq_true s)
      split at h
      · simpa [List.mem_singleton.mp h] using hne
      · next first rest hsplit =>
        rcases List.mem_cons.mp h with rfl | h
        · have hfirst : s ∉ first := ih (by simp [hsplit])
          simp [hne, hfirst]
        · exact ih (by simp [hsplit, h])

theorem append_flatMap_of_splitOn (h : splitOn (· == s) l = part :: parts) :
    part ++ parts.flatMap (s :: ·) = l := by
  induction l generalizing part parts with
  | nil =>
    cases h
    rfl
  | cons c l ih =>
    rw [splitOn] at h
    split at h
    · next hc =>
      obtain ⟨rfl, rfl⟩ := List.cons.inj h
      obtain ⟨first, rest, hsplit⟩ := List.exists_cons_of_ne_nil (splitOn_ne_nil (· == s) l)
      rw [hsplit, List.flatMap_cons, List.nil_append, List.cons_append, ih hsplit,
        eq_of_beq hc]
    · split at h
      · next hsplit => exact absurd hsplit (splitOn_ne_nil _ l)
      · next first rest hsplit =>
        obtain ⟨rfl, rfl⟩ := List.cons.inj h
        rw [List.cons_append, ih hsplit]

/-- A list falls into some parts exactly if it is put together from them with separators, and none
of them contains one. -/
theorem splitOn_eq_cons :
    splitOn (· == s) l = part :: parts ↔
      l = part ++ parts.flatMap (s :: ·) ∧ ∀ q ∈ part :: parts, s ∉ q := by
  constructor
  · intro h
    refine ⟨(append_flatMap_of_splitOn h).symm, fun q hq => ?_⟩
    rw [← h] at hq
    exact not_mem_of_mem_splitOn hq
  · rintro ⟨rfl, h⟩
    have hpart : ∀ q ∈ part :: parts, ∀ c ∈ q, (c == s) = false := by
      intro q hq c hc
      rw [beq_eq_false_iff_ne]
      rintro rfl
      exact h q hq hc
    obtain ⟨hfirst, hrest⟩ := List.forall_mem_cons.mp hpart
    exact splitOn_append_flatMap (p := (· == s)) (beq_self_eq_true s) part parts hfirst hrest

end Separator

/-! ## Beginnings and ends -/

section Ends

variable [BEq α] [LawfulBEq α] {s l tail : List α}

theorem afterStart?_eq_some {head rest : List α} :
    afterStart? head s = some rest ↔ s = head ++ rest := by
  induction head generalizing s with
  | nil => simp [afterStart?, eq_comm]
  | cons h hs ih =>
    cases s with
    | nil => simp [afterStart?]
    | cons c cs =>
      rw [afterStart?]
      by_cases hc : h = c
      · simp [hc, ih]
      · simp [hc, Ne.symm hc]

theorem beforeEnd?_eq_some : beforeEnd? tail s = some l ↔ s = l ++ tail := by
  unfold beforeEnd?
  rw [Option.map_eq_some_iff]
  constructor
  · rintro ⟨rest, hrest, rfl⟩
    rw [← List.reverse_reverse s, afterStart?_eq_some.mp hrest]
    simp
  · rintro rfl
    exact ⟨l.reverse, afterStart?_eq_some.mpr (by simp), by simp⟩

theorem beforeEnd?_eq_none {c : α} (hc : c ∈ tail) (h : c ∉ s) : beforeEnd? tail s = none := by
  rw [Option.eq_none_iff_forall_ne_some]
  intro l hl
  rw [beforeEnd?_eq_some.mp hl] at h
  exact h (List.mem_append_right l hc)

end Ends

end Gatehouse.Text
