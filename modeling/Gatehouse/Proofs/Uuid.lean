import Gatehouse.Proofs.Ascii
import Gatehouse.Uuid
import Mathlib.Algebra.Group.Nat.Defs

/-!
# Identifiers are read as they are written

The written form of an identifier is read as that identifier (`Uuid.parse?_toText`). Its digits are
read as the number that they were made from, and between its hyphens there are no others. The digits
of bytes are read as these bytes (`Encoding.unhex?_hex`).
-/

namespace Gatehouse

/-! ## Digits -/

namespace Encoding

theorem hexValue?_hexDigit : ∀ d < 16, hexValue? (hexDigit d) = some d := by decide

theorem hexDigit_ne_hyphen : ∀ d < 16, hexDigit d ≠ '-' := by decide

theorem length_hexDigits (count n : Nat) : (hexDigits count n).length = count := by
  induction count generalizing n with
  | zero => rfl
  | succ k ih => rw [hexDigits, List.length_append, ih, List.length_singleton]

theorem exists_of_mem_hexDigits {count n : Nat} {c : Char} (h : c ∈ hexDigits count n) :
    ∃ d < 16, hexDigit d = c := by
  induction count generalizing n with
  | zero => cases h
  | succ k ih =>
    rw [hexDigits, List.mem_append, List.mem_singleton] at h
    rcases h with h | rfl
    · exact ih h
    · exact ⟨n % 16, Nat.mod_lt _ (by decide), rfl⟩

theorem ne_hyphen_of_mem_hexDigits {count n : Nat} {c : Char} (h : c ∈ hexDigits count n) :
    c ≠ '-' := by
  obtain ⟨d, hd, rfl⟩ := exists_of_mem_hexDigits h
  exact hexDigit_ne_hyphen d hd

theorem hexNumber?_append_singleton (l : List Char) (c : Char) :
    hexNumber? (l ++ [c]) = (do
      let n ← hexNumber? l
      let d ← hexValue? c
      pure (16 * n + d)) := by
  unfold hexNumber?
  rw [List.foldl_append, List.foldl_cons, List.foldl_nil]

/-- Digits are read as the number that they are the lowest digits of, without its higher ones. -/
theorem hexNumber?_hexDigits (count n : Nat) :
    hexNumber? (hexDigits count n) = some (n % 16 ^ count) := by
  induction count generalizing n with
  | zero =>
    rw [Nat.pow_zero, Nat.mod_one]
    rfl
  | succ k ih =>
    have hlast : hexValue? (hexDigit (n % 16)) = some (n % 16) :=
      hexValue?_hexDigit _ (Nat.mod_lt _ (by decide))
    have hsum : n % 16 ^ (k + 1) = 16 * (n / 16 % 16 ^ k) + n % 16 := by
      rw [Nat.pow_succ, Nat.mul_comm (16 ^ k) 16, Nat.mod_mul, Nat.add_comm]
    rw [hexDigits, hexNumber?_append_singleton, ih, hlast, hsum]
    rfl

/-! ### Bytes -/

theorem hex_cons (b : UInt8) (bytes : List UInt8) :
    hex (b :: bytes) =
      hexDigit (b.toNat / 16 % 16) :: hexDigit (b.toNat % 16) :: hex bytes :=
  rfl

theorem unhex?_hex (bytes : List UInt8) : unhex? (hex bytes) = some bytes := by
  induction bytes with
  | nil => rfl
  | cons b bytes ih =>
    have hpair : hexNumber? [hexDigit (b.toNat / 16 % 16), hexDigit (b.toNat % 16)] =
        some b.toNat := by
      have hbyte : b.toNat % 16 ^ 2 = b.toNat := Nat.mod_eq_of_lt b.toNat_lt
      exact (hexNumber?_hexDigits 2 b.toNat).trans (congrArg some hbyte)
    rw [hex_cons, unhex?, hpair, ih]
    simp

theorem hex_injective : Function.Injective hex := by
  intro bytes bytes' h
  apply Option.some.inj
  rw [← unhex?_hex, ← unhex?_hex, h]

/-- Two digits stand for each byte. -/
theorem take_hex (n : Nat) (bytes : List UInt8) :
    (hex bytes).take (2 * n) = hex (bytes.take n) := by
  induction n generalizing bytes with
  | zero => rfl
  | succ n ih =>
    cases bytes with
    | nil => rfl
    | cons b bytes =>
      rw [hex_cons, Nat.mul_succ, List.take_succ_cons, List.take_succ_cons, List.take_succ_cons, ih,
        hex_cons]

end Encoding

/-! ## Identifiers -/

namespace Uuid

open Encoding Text

theorem ofDigits?_hexDigits (u : Uuid) : ofDigits? (hexDigits 32 u.bits.toNat) = some u := by
  have hnumber : hexNumber? (hexDigits 32 u.bits.toNat) = some u.bits.toNat := by
    rw [hexNumber?_hexDigits, Nat.mod_eq_of_lt (by simpa using u.bits.isLt)]
  unfold ofDigits?
  rw [if_pos (length_hexDigits 32 _), hnumber]
  simp

/-- The hyphens of the written form are in place, and between them are its digits. -/
theorem groups?_toChars (u : Uuid) : groups? u.toChars = some (hexDigits 32 u.bits.toNat) := by
  unfold toChars
  dsimp only
  generalize hds : hexDigits 32 u.bits.toNat = ds
  have hlength : ds.length = 32 := by rw [← hds, length_hexDigits]
  have hdigit : ∀ c ∈ ds, (c == '-') = false := by
    intro c hc
    rw [← hds] at hc
    simpa using ne_hyphen_of_mem_hexDigits hc
  have htake : ∀ m k, ∀ c ∈ (ds.drop m).take k, (c == '-') = false :=
    fun m k c hc => hdigit c (List.mem_of_mem_drop (List.mem_of_mem_take hc))
  have hparts : splitOn (· == '-') (ds.take 8 ++ ['-'] ++ (ds.drop 8).take 4 ++ ['-'] ++
      (ds.drop 12).take 4 ++ ['-'] ++ (ds.drop 16).take 4 ++ ['-'] ++ ds.drop 20) =
        [ds.take 8, (ds.drop 8).take 4, (ds.drop 12).take 4, (ds.drop 16).take 4, ds.drop 20] := by
    have hhyphen : (fun c => c == '-') '-' = true := rfl
    simp only [List.append_assoc, List.cons_append, List.nil_append]
    rw [splitOn_append_cons (fun c hc => hdigit c (List.mem_of_mem_take hc)) hhyphen,
      splitOn_append_cons (htake 8 4) hhyphen, splitOn_append_cons (htake 12 4) hhyphen,
      splitOn_append_cons (htake 16 4) hhyphen,
      splitOn_of_forall_not fun c hc => hdigit c (List.mem_of_mem_drop hc)]
  have hjoin : ds.take 8 ++ (ds.drop 8).take 4 ++ (ds.drop 12).take 4 ++ (ds.drop 16).take 4 ++
      ds.drop 20 = ds := by
    have hnext : ∀ m k, ds.take m ++ (ds.drop m).take k = ds.take (m + k) :=
      fun m k => (List.take_add).symm
    rw [hnext, hnext, hnext, List.take_append_drop]
  unfold groups?
  rw [hparts]
  simp only [List.length_take, List.length_drop, hlength, hjoin]
  rfl

theorem length_toChars (u : Uuid) : u.toChars.length = 36 := by
  simp [toChars, length_hexDigits]

/-- What is written for an identifier is read as that identifier. -/
theorem parse?_toText (u : Uuid) : parse? u.toText = some u := by
  have hplain : ofDigits? u.toChars = none := by
    unfold ofDigits?
    rw [length_toChars, if_neg (by decide)]
  have hhyphens : ofHyphenated? u.toChars = some u := by
    unfold ofHyphenated?
    rw [groups?_toChars, Option.bind_some, ofDigits?_hexDigits]
  unfold parse? toText
  rw [String.toList_ofList]
  dsimp only
  rw [hplain, hhyphens]
  rfl

end Uuid

end Gatehouse
