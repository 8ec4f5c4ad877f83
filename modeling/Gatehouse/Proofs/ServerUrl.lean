import Gatehouse.Proofs.Lowercase
import Gatehouse.Proofs.Runs
import Gatehouse.ServerUrl

/-!
# Comparing addresses

Slashes at the end of an address may be taken off before it is lower-cased or after it
(`ServerUrl.normalise_eq`). The two orders agree although the form of a sigma depends on what
follows it: a slash ends a word just as the end of the text does. What is compared is its own
normal form (`ServerUrl.normalise_normalise`).
-/

namespace Gatehouse.Text

/-! ## Slashes and case -/

/-- Nothing but a slash becomes a slash. -/
theorem lowerPoint_ne_slash {n : Nat} (h : n ≠ '/'.toNat) : lowerPoint n ≠ '/'.toNat := by
  rcases lowerPoint_cases n with ⟨hsame, -⟩ | ⟨r, hr, hcovers⟩
  · rwa [hsame]
  · have hlt := slash_lt_image r hr
    obtain ⟨⟨hfirst, -⟩, -⟩ := CaseRun.covers_eq_true.mp hcovers
    omega

theorem ofNat_ne_slash {n : Nat} (h : n ≠ '/'.toNat) : Char.ofNat n ≠ '/' := by
  intro hchar
  have hnat : (if n.isValidChar then n else 0) = '/'.toNat := by
    rw [← Char.toNat_ofNat, hchar]
  by_cases hvalid : n.isValidChar
  · rw [if_pos hvalid] at hnat
    exact h hnat
  · rw [if_neg hvalid] at hnat
    exact absurd hnat (by decide)

/-- The lower-case form of a character other than a slash does not end in one. -/
theorem lowerChar_eq_concat {c : Char} (h : c ≠ '/') :
    ∃ l d, lowerChar c = l ++ [d] ∧ d ≠ '/' := by
  unfold lowerChar
  split
  · exact ⟨['i'], '\u0307', rfl, by decide⟩
  · refine ⟨[], _, rfl, ofNat_ne_slash (lowerPoint_ne_slash fun hnat => h ?_)⟩
    rw [← Char.ofNat_toNat c, hnat]
    rfl

/-- A slash is no cased letter, and the rule of the final sigma does not look past it. -/
theorem startsCased_concat_slash (l : List Char) : startsCased (l ++ ['/']) = startsCased l := by
  induction l with
  | nil => decide +kernel
  | cons c l ih =>
    unfold startsCased at ih ⊢
    rw [List.cons_append, List.dropWhile_cons, List.dropWhile_cons]
    by_cases hc : isCaseIgnorable c = true
    · rw [if_pos hc, if_pos hc]
      exact ih
    · rw [if_neg hc, if_neg hc]

theorem lowerFrom_concat_slash (before l : List Char) :
    lowerFrom before (l ++ ['/']) = lowerFrom before l ++ ['/'] := by
  induction l generalizing before with
  | nil =>
    have hlower : lowerChar '/' = ['/'] := by decide +kernel
    have hslash : '/' ≠ 'Σ' := by decide
    simp only [List.nil_append, lowerFrom, if_neg hslash, hlower]
    rfl
  | cons c l ih =>
    rw [List.cons_append, lowerFrom, lowerFrom, startsCased_concat_slash, ih]
    split
    · rfl
    · exact (List.append_assoc ..).symm

/-- What ends in something else than a slash does so when it is lower-cased. -/
theorem lowerFrom_concat_of_ne {c : Char} (h : c ≠ '/') (before l : List Char) :
    ∃ l' d, lowerFrom before (l ++ [c]) = l' ++ [d] ∧ d ≠ '/' := by
  induction l generalizing before with
  | nil =>
    rw [List.nil_append, lowerFrom, lowerFrom]
    split
    · split
      · exact ⟨[], 'ς', rfl, by decide⟩
      · exact ⟨[], 'σ', rfl, by decide⟩
    · rw [List.append_nil]
      exact lowerChar_eq_concat h
  | cons a l ih =>
    obtain ⟨l', d, hrest, hd⟩ := ih (a :: before)
    rw [List.cons_append, lowerFrom, hrest]
    split
    · exact ⟨_ :: l', d, rfl, hd⟩
    · exact ⟨lowerChar a ++ l', d, (List.append_assoc ..).symm, hd⟩

theorem dropEndWhile_lowerFrom (before l : List Char) :
    dropEndWhile (· == '/') (lowerFrom before l) =
      lowerFrom before (dropEndWhile (· == '/') l) := by
  induction l using List.reverseRecOn with
  | nil => rfl
  | append_singleton l c ih =>
    rw [dropEndWhile_concat]
    by_cases hc : c = '/'
    · subst hc
      rw [if_pos (by decide), lowerFrom_concat_slash, dropEndWhile_concat, if_pos (by decide), ih]
    · obtain ⟨l', d, hlower, hd⟩ := lowerFrom_concat_of_ne hc before l
      rw [if_neg (by simpa using hc), hlower, dropEndWhile_concat, if_neg (by simpa using hd)]

end Gatehouse.Text

namespace Gatehouse.ServerUrl

/-- An address may be lower-cased first, and freed of slashes at its end after that. -/
theorem normalise_eq (url : String) :
    normalise url = Text.trimEndWhile (· == '/') (Text.lowercase url) := by
  unfold normalise Text.lowercase Text.trimEndWhile
  rw [String.toList_ofList, String.toList_ofList, Text.dropEndWhile_lowerFrom]

theorem normalise_normalise (url : String) : normalise (normalise url) = normalise url := by
  have htrim : Text.trimEndWhile (· == '/') (normalise url) = normalise url := by
    rw [normalise_eq]
    unfold Text.trimEndWhile
    rw [String.toList_ofList, Text.dropEndWhile_dropEndWhile]
  have hlower : Text.lowercase (normalise url) = normalise url := by
    unfold normalise
    exact Text.lowercase_lowercase _
  calc normalise (normalise url)
      = Text.lowercase (Text.trimEndWhile (· == '/') (normalise url)) := rfl
    _ = normalise url := by rw [htrim, hlower]

def slashes (n : Nat) : String := String.ofList (List.replicate n '/')

theorem normalise_append_slashes (url : String) (n : Nat) :
    normalise (url ++ slashes n) = normalise url := by
  have hslashes : ∀ c ∈ List.replicate n '/', (c == '/') = true := by
    intro c hc
    rw [List.eq_of_mem_replicate hc]
    rfl
  unfold normalise Text.trimEndWhile slashes
  rw [String.toList_append, String.toList_ofList, Text.dropEndWhile_append hslashes]

theorem normalise_of_sameIgnoringCase {url url' : String}
    (h : Text.sameIgnoringCase url url' = true) : normalise url = normalise url' := by
  rw [normalise_eq, normalise_eq, Text.lowercase_of_sameIgnoringCase h]

theorem same_iff {a b : String} : same a b = true ↔ normalise a = normalise b := by
  unfold same
  exact beq_iff_eq

end Gatehouse.ServerUrl
