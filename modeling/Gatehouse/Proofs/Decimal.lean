import Gatehouse.Proofs.JsonText
import Gatehouse.Text.Decimal

/-!
# Decimal numbers are read as they were written

A number below the bound is read from its digits, and nothing else is read as a number below it
(`readUnsigned_eq_ok`). The reader stops at the first number that is too large; since a digit more
never makes a number smaller, it misses none that is not.
-/

namespace Gatehouse.Text

open Json (appendDigits Digits)

variable {bound n m : Nat} {cs : List Char}

theorem appendDigits_cons (n : Nat) (c : Char) (cs : List Char) :
    appendDigits n (c :: cs) = appendDigits (10 * n + digitValue c) cs := by
  unfold appendDigits
  rw [List.foldl_cons]

theorem le_appendDigits (n : Nat) (cs : List Char) : n ≤ appendDigits n cs := by
  induction cs generalizing n with
  | nil => exact Nat.le_refl n
  | cons c cs ih =>
    have h := ih (10 * n + digitValue c)
    rw [appendDigits_cons]
    omega

theorem readDigits_eq_ok (hn : n < bound) :
    readDigits bound n cs = .ok m ↔
      (∀ c ∈ cs, isDigit c = true) ∧ appendDigits n cs = m ∧ m < bound := by
  induction cs generalizing n with
  | nil =>
    constructor
    · intro h
      cases h
      exact ⟨by simp, rfl, hn⟩
    · rintro ⟨-, rfl, -⟩
      rfl
  | cons c cs ih =>
    rw [readDigits, List.forall_mem_cons, appendDigits_cons]
    by_cases hc : isDigit c = true
    · rw [if_pos hc]
      by_cases hlt : 10 * n + digitValue c < bound
      · rw [if_pos hlt, ih hlt]
        simp [hc]
      · rw [if_neg hlt]
        -- The reader gives up here, and the digits after this one cannot make up for it.
        have hle := le_appendDigits (10 * n + digitValue c) cs
        constructor
        · intro h
          cases h
        · rintro ⟨-, rfl, hm⟩
          omega
    · rw [if_neg hc]
      simp [hc]

/-- A number is read from one or more digits, with or without a plus sign. -/
theorem readUnsigned_eq_ok (hbound : 0 < bound) :
    readUnsigned bound cs = .ok m ↔
      ∃ ds, (cs = ds ∨ cs = '+' :: ds) ∧ Digits ds ∧ appendDigits 0 ds = m ∧ m < bound := by
  unfold readUnsigned
  split
  · constructor
    · intro h
      cases h
    · rintro ⟨ds, rfl | h, ⟨hne, -⟩, -⟩
      · exact absurd rfl hne
      · cases h
  · constructor
    · intro h
      cases h
    · rintro ⟨ds, rfl | h, ⟨hne, hdigits⟩, -⟩
      · exact absurd (hdigits '+' List.mem_cons_self) (by decide)
      · cases h
        exact absurd rfl hne
  · next ds hne =>
    rw [readDigits_eq_ok hbound]
    constructor
    · rintro ⟨hdigits, hm⟩
      exact ⟨ds, Or.inr rfl, ⟨fun h => hne (h ▸ rfl), hdigits⟩, hm⟩
    · rintro ⟨ds', rfl | h, ⟨-, hdigits⟩, hm⟩
      · exact absurd (hdigits '+' List.mem_cons_self) (by decide)
      · cases h
        exact ⟨hdigits, hm⟩
  · next hnil _ hplus =>
    rw [readDigits_eq_ok hbound]
    constructor
    · rintro ⟨hdigits, hm⟩
      exact ⟨cs, Or.inl rfl, ⟨hnil, hdigits⟩, hm⟩
    · rintro ⟨ds, rfl | rfl, ⟨-, hdigits⟩, hm⟩
      · exact ⟨hdigits, hm⟩
      · exact absurd rfl (hplus ds)

theorem readUnsigned_toDigits (h : n < bound) :
    readUnsigned bound (Nat.toDigits 10 n) = .ok n :=
  (readUnsigned_eq_ok (Nat.zero_lt_of_lt h)).mpr
    ⟨_, Or.inl rfl, Json.digits_toDigits n, Json.appendDigits_toDigits n, h⟩

theorem natOfDigits?_toDigits (n : Nat) : natOfDigits? (Nat.toDigits 10 n) = some n := by
  obtain ⟨hne, hdigits⟩ := Json.digits_toDigits n
  have hall : (Nat.toDigits 10 n).all isDigit = true := List.all_eq_true.mpr hdigits
  unfold natOfDigits?
  rw [hall, if_neg (by simp)]
  exact congrArg some (Json.appendDigits_toDigits n)

/-! ## Digits without a leading zero -/

theorem digitChar_digitValue {c : Char} (h : isDigit c = true) :
    digitValue c < 10 ∧ Nat.digitChar (digitValue c) = c := by
  unfold isDigit at h
  rw [Bool.and_eq_true, decide_eq_true_eq, decide_eq_true_eq] at h
  have hge : 48 ≤ c.toNat := le_iff_toNat_le.mp h.1
  have hle : c.toNat ≤ 57 := le_iff_toNat_le.mp h.2
  have hlt : digitValue c < 10 := by
    unfold digitValue
    omega
  refine ⟨hlt, Char.toNat_inj.mp ?_⟩
  rw [Nat.toNat_digitChar_of_lt_ten hlt]
  unfold digitValue
  omega

/-- More digits after the digits of a number make the digits of another number. -/
theorem toDigits_append (hn : 0 < n) (hcs : ∀ c ∈ cs, isDigit c = true) :
    Nat.toDigits 10 n ++ cs = Nat.toDigits 10 (appendDigits n cs) := by
  induction cs generalizing n with
  | nil => exact List.append_nil _
  | cons c cs ih =>
    obtain ⟨hc, hcs⟩ := List.forall_mem_cons.mp hcs
    obtain ⟨hlt, hchar⟩ := digitChar_digitValue hc
    have hstep := Nat.toDigits_append_toDigits (b := 10) (by decide) hn hlt
    rw [Nat.toDigits_of_lt_base hlt, hchar] at hstep
    calc Nat.toDigits 10 n ++ c :: cs = (Nat.toDigits 10 n ++ [c]) ++ cs := by simp
      _ = Nat.toDigits 10 (10 * n + digitValue c) ++ cs := by rw [hstep]
      _ = Nat.toDigits 10 (appendDigits n (c :: cs)) := by
        rw [ih (by omega) hcs, appendDigits_cons]

/-- Digits without a leading zero are the digits of the number that they are read as. -/
theorem toDigits_appendDigits {c : Char} (hdigits : ∀ d ∈ c :: cs, isDigit d = true)
    (hlead : c = '0' → cs = []) : Nat.toDigits 10 (appendDigits 0 (c :: cs)) = c :: cs := by
  obtain ⟨hc, hcs⟩ := List.forall_mem_cons.mp hdigits
  obtain ⟨hlt, hchar⟩ := digitChar_digitValue hc
  rw [appendDigits_cons, Nat.mul_zero, Nat.zero_add]
  by_cases hzero : digitValue c = 0
  · have hc0 : c = '0' := by
      rw [← hchar, hzero]
      rfl
    rw [hlead hc0, hc0]
    rfl
  · rw [← toDigits_append (by omega) hcs, Nat.toDigits_of_lt_base hlt, hchar]
    rfl

end Gatehouse.Text
