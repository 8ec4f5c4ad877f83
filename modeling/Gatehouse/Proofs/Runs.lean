import Gatehouse.Text.Blank
import Mathlib.Data.List.DropRight

/-!
# Runs at the ends of a text

What is taken off a list at either end is the longest run of elements of a kind. A run that is
followed by an element of another kind can therefore be told from what follows it
(`append_inj_of_stops`), and trimming finds what stands between blanks (`trim_append`).
-/

namespace Gatehouse.Text

variable {α : Type} {p : α → Bool} {l l' rest rest' : List α}

/-! ## At the start -/

theorem takeWhile_append_of_stops (hl : ∀ c ∈ l, p c = true)
    (hrest : ∀ c ∈ rest.head?, p c = false) : (l ++ rest).takeWhile p = l := by
  rw [List.takeWhile_append_of_pos hl]
  cases rest with
  | nil => simp
  | cons c rest => simp [hrest c rfl]

theorem dropWhile_append_of_stops (hl : ∀ c ∈ l, p c = true)
    (hrest : ∀ c ∈ rest.head?, p c = false) : (l ++ rest).dropWhile p = rest := by
  rw [List.dropWhile_append_of_pos hl]
  cases rest with
  | nil => simp
  | cons c rest => simp [hrest c rfl]

theorem append_inj_of_stops (h : l ++ rest = l' ++ rest') (hl : ∀ c ∈ l, p c = true)
    (hl' : ∀ c ∈ l', p c = true) (hrest : ∀ c ∈ rest.head?, p c = false)
    (hrest' : ∀ c ∈ rest'.head?, p c = false) : l = l' ∧ rest = rest' := by
  constructor
  · rw [← takeWhile_append_of_stops hl hrest, h, takeWhile_append_of_stops hl' hrest']
  · rw [← dropWhile_append_of_stops hl hrest, h, dropWhile_append_of_stops hl' hrest']

/-! ## At the end -/

theorem dropEndWhile_concat (l : List α) (a : α) :
    dropEndWhile p (l ++ [a]) = if p a then dropEndWhile p l else l ++ [a] := by
  unfold dropEndWhile
  rw [List.reverse_append, List.reverse_singleton, List.singleton_append, List.dropWhile_cons]
  split
  · rfl
  · rw [List.reverse_cons, List.reverse_reverse]

theorem dropEndWhile_dropEndWhile (l : List α) :
    dropEndWhile p (dropEndWhile p l) = dropEndWhile p l := by
  unfold dropEndWhile
  rw [List.reverse_reverse, List.dropWhile_idempotent]

theorem dropEndWhile_append {tail : List α} (h : ∀ a ∈ tail, p a = true) (l : List α) :
    dropEndWhile p (l ++ tail) = dropEndWhile p l := by
  unfold dropEndWhile
  rw [List.reverse_append, List.dropWhile_append_of_pos (by simpa using h)]

theorem dropEndWhile_eq_self (h : ∀ c ∈ l.getLast?, p c = false) : dropEndWhile p l = l := by
  unfold dropEndWhile
  rw [← List.head?_reverse] at h
  cases hl : l.reverse with
  | nil => simpa using hl.symm
  | cons c cs =>
    rw [hl] at h
    rw [List.dropWhile_cons_of_neg (by simpa using h), ← hl, List.reverse_reverse]

theorem dropEndWhile_eq_nil : dropEndWhile p l = [] ↔ ∀ c ∈ l, p c = true := by
  unfold dropEndWhile
  rw [List.reverse_eq_nil_iff, List.dropWhile_eq_nil_iff]
  simp only [List.mem_reverse]

theorem exists_append_dropEndWhile (l : List α) :
    ∃ tail, l = dropEndWhile p l ++ tail ∧ ∀ c ∈ tail, p c = true := by
  refine ⟨(l.reverse.takeWhile p).reverse, ?_, fun c hc => ?_⟩
  · unfold dropEndWhile
    rw [← List.reverse_append, List.takeWhile_append_dropWhile, List.reverse_reverse]
  · exact List.mem_takeWhile_imp (List.mem_reverse.mp hc)

/-! ## At both ends -/

theorem trim_append {s : String} {before body after : List Char}
    (h : s.toList = before ++ body ++ after) (hbefore : ∀ c ∈ before, isBlank c = true)
    (hafter : ∀ c ∈ after, isBlank c = true) (hfirst : ∀ c ∈ body.head?, isBlank c = false)
    (hlast : ∀ c ∈ body.getLast?, isBlank c = false) : trim s = String.ofList body := by
  unfold trim
  rw [h, List.append_assoc, List.dropWhile_append_of_pos hbefore]
  cases body with
  | nil =>
    rw [List.nil_append, List.dropWhile_eq_nil_iff.mpr hafter]
    rfl
  | cons c body =>
    rw [List.cons_append, List.dropWhile_cons_of_neg (by simpa using hfirst), ← List.cons_append,
      dropEndWhile_append hafter, dropEndWhile_eq_self hlast]

theorem trim_eq_self {s : String} (hfirst : ∀ c ∈ s.toList.head?, isBlank c = false)
    (hlast : ∀ c ∈ s.toList.getLast?, isBlank c = false) : trim s = s := by
  have hself : s.toList = [] ++ s.toList ++ [] := by simp
  rw [trim_append hself (by simp) (by simp) hfirst hlast, String.ofList_toList]

theorem exists_append_trim (s : String) :
    ∃ before after, s.toList = before ++ (trim s).toList ++ after ∧
      (∀ c ∈ before, isBlank c = true) ∧ ∀ c ∈ after, isBlank c = true := by
  obtain ⟨after, hafter, hblank⟩ :=
    exists_append_dropEndWhile (p := isBlank) (s.toList.dropWhile isBlank)
  refine ⟨s.toList.takeWhile isBlank, after, ?_, fun c hc => List.mem_takeWhile_imp hc, hblank⟩
  unfold trim
  rw [String.toList_ofList, List.append_assoc, ← hafter, List.takeWhile_append_dropWhile]

end Gatehouse.Text
