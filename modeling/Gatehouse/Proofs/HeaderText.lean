import Gatehouse.Http.Header
import Gatehouse.Proofs.Ascii

/-!
# The text of header values

The bytes of a text can be read back from a header when each of its characters is a tab or one of
the printable ASCII characters, and not otherwise (`textOf?_toUTF8`): every other character is
written with a byte that stands for none.
-/

namespace Gatehouse

namespace Encoding

theorem toList_loop (bytes : ByteArray) (i : Nat) (l : List UInt8) :
    ByteArray.toList.loop bytes i l = l.reverse ++ bytes.data.toList.drop i := by
  induction i, l using ByteArray.toList.loop.induct bytes with
  | case1 i l hlt ih =>
    have hlength : i < bytes.data.toList.length := by simpa using hlt
    have hget : bytes.get! i = bytes.data.toList[i] := by
      change bytes.data[i]! = _
      rw [getElem!_pos bytes.data i hlt, Array.getElem_toList]
    rw [ByteArray.toList.loop, if_pos hlt, ih, List.drop_eq_getElem_cons hlength, hget]
    simp
  | case2 i l hlt =>
    have hlength : bytes.data.toList.length ≤ i := by simpa using Nat.le_of_not_lt hlt
    rw [ByteArray.toList.loop, if_neg hlt, List.drop_eq_nil_of_le hlength, List.append_nil]

theorem toList_toUTF8 (s : String) : s.toUTF8.toList = s.toList.flatMap String.utf8EncodeChar := by
  have hbytes : s.toUTF8 = s.toList.utf8Encode := String.utf8Encode_toList.symm
  unfold ByteArray.toList
  rw [toList_loop, hbytes, List.utf8Encode, List.toList_data_toByteArray]
  rfl

end Encoding

namespace Http

/-- Whether a character can be read back from a header. -/
def isTextChar (c : Char) : Bool := c == '\t' || (' ' ≤ c && c ≤ '~')

theorem isTextByte_ascii : ∀ n < 128, isTextByte (UInt8.ofNat n) = isTextChar (Char.ofNat n) := by
  decide

theorem isTextByte_high : ∀ n < 128, isTextByte (UInt8.ofNat (n + 128)) = false := by decide

theorem isTextChar_high {c : Char} (h : 127 < c.toNat) : isTextChar c = false := by
  have htab : (c == '\t') = false := by
    rw [beq_eq_false_iff_ne]
    rintro rfl
    exact absurd h (by decide)
  have htilde : ¬c ≤ '~' := Text.not_le_of_high h (by decide)
  unfold isTextChar
  rw [htab, decide_eq_false htilde, Bool.and_false, Bool.or_false]

theorem all_utf8EncodeChar (c : Char) : (String.utf8EncodeChar c).all isTextByte = isTextChar c := by
  have hhigh : ∀ n l, 128 ≤ n → n < 256 → (UInt8.ofNat n :: l).all isTextByte = false := by
    intro n l hle hlt
    have h := isTextByte_high (n - 128) (by omega)
    rw [Nat.sub_add_cancel hle] at h
    rw [List.all_cons, h, Bool.false_and]
  have hval : c.val.toNat = c.toNat := rfl
  rw [String.utf8EncodeChar.eq_1, hval]
  by_cases hascii : c.toNat ≤ 127
  · rw [if_pos hascii, List.all_cons, List.all_nil, Bool.and_true,
      isTextByte_ascii c.toNat (by omega), Char.ofNat_toNat]
  · rw [if_neg hascii, isTextChar_high (by omega)]
    -- The first byte of a character beyond ASCII is at least 192.
    split
    · exact hhigh _ _ (by omega) (by omega)
    · split
      · exact hhigh _ _ (by omega) (by omega)
      · exact hhigh _ _ (by omega) (by omega)

theorem utf8EncodeChar_of_isTextChar {c : Char} (h : isTextChar c = true) :
    (String.utf8EncodeChar c).map (fun b => Char.ofNat b.toNat) = [c] := by
  have hascii : c.toNat ≤ 127 := by
    apply Nat.le_of_not_lt
    intro hhigh
    rw [isTextChar_high hhigh] at h
    cases h
  have hval : c.val.toNat = c.toNat := rfl
  have hbyte : (UInt8.ofNat c.toNat).toNat = c.toNat := by
    rw [UInt8.toNat_ofNat']
    omega
  rw [String.utf8EncodeChar.eq_1, hval, if_pos hascii, List.map_singleton, hbyte, Char.ofNat_toNat]

/-- The bytes of a text are read back as the text if that has characters for headers only, and are
no text of a header otherwise. -/
theorem textOf?_toUTF8 (s : String) :
    textOf? s.toUTF8.toList = if s.toList.all isTextChar then some s else none := by
  have hall : s.toUTF8.toList.all isTextByte = s.toList.all isTextChar := by
    rw [Encoding.toList_toUTF8, List.all_flatMap]
    exact congrArg s.toList.all (funext all_utf8EncodeChar)
  unfold textOf?
  rw [hall]
  by_cases htext : s.toList.all isTextChar = true
  · have hchars : s.toUTF8.toList.map (fun b => Char.ofNat b.toNat) = s.toList := by
      rw [Encoding.toList_toUTF8]
      rw [List.all_eq_true] at htext
      generalize s.toList = cs at htext
      induction cs with
      | nil => rfl
      | cons c cs ih =>
        obtain ⟨hc, hcs⟩ := List.forall_mem_cons.mp htext
        rw [List.flatMap_cons, List.map_append, utf8EncodeChar_of_isTextChar hc, ih hcs]
        rfl
    rw [if_pos htext, if_pos htext, hchars, String.ofList_toList]
  · rw [if_neg htext, if_neg htext]

/-! ## Text values -/

/-- A value holds a text: the bytes are those of the text, whose characters are tabs and printable
ASCII characters. -/
def IsText (value : List UInt8) (s : String) : Prop :=
  value = s.toUTF8.toList ∧ ∀ c ∈ s.toList, c = '\t' ∨ ' ' ≤ c ∧ c ≤ '~'

theorem isTextChar_iff {c : Char} : isTextChar c = true ↔ c = '\t' ∨ ' ' ≤ c ∧ c ≤ '~' := by
  simp [isTextChar]

theorem utf8EncodeChar_of_isTextByte : ∀ n < 128, isTextByte (UInt8.ofNat n) = true →
    String.utf8EncodeChar (Char.ofNat n) = [UInt8.ofNat n] := by
  decide

theorem lt_of_isTextByte {b : UInt8} (h : isTextByte b = true) : b.toNat < 128 := by
  apply Nat.lt_of_not_le
  intro hle
  have hhigh := isTextByte_high (b.toNat - 128) (by have := b.toNat_lt; omega)
  rw [Nat.sub_add_cancel hle, UInt8.ofNat_toNat, h] at hhigh
  cases hhigh

theorem flatMap_utf8EncodeChar {value : List UInt8} (h : value.all isTextByte = true) :
    (value.map fun b => Char.ofNat b.toNat).flatMap String.utf8EncodeChar = value := by
  induction value with
  | nil => rfl
  | cons b value ih =>
    rw [List.all_cons, Bool.and_eq_true] at h
    obtain ⟨hb, hvalue⟩ := h
    have hchar := utf8EncodeChar_of_isTextByte b.toNat (lt_of_isTextByte hb)
    rw [UInt8.ofNat_toNat] at hchar
    rw [List.map_cons, List.flatMap_cons, hchar hb, ih hvalue]
    rfl

theorem textOf?_eq_some {value : List UInt8} {s : String} :
    textOf? value = some s ↔ IsText value s := by
  constructor
  · intro h
    have hvalue : value = s.toUTF8.toList := by
      unfold textOf? at h
      split at h
      · next hall =>
        cases h
        rw [Encoding.toList_toUTF8, String.toList_ofList, flatMap_utf8EncodeChar hall]
      · cases h
    refine ⟨hvalue, fun c hc => isTextChar_iff.mp ?_⟩
    rw [hvalue, textOf?_toUTF8] at h
    split at h
    · next hall => exact List.all_eq_true.mp hall c hc
    · cases h
  · rintro ⟨rfl, h⟩
    rw [textOf?_toUTF8, if_pos]
    exact List.all_eq_true.mpr fun c hc => isTextChar_iff.mpr (h c hc)

theorem Headers.text?_eq_some {hs : Headers} {name s : String} :
    hs.text? name = some s ↔ ∃ value, hs.first? name = some value ∧ IsText value s := by
  unfold Headers.text?
  simp only [Option.bind_eq_some_iff, textOf?_eq_some]

/-! ## First values -/

namespace Headers

theorem first?_filter {name other : String} (h : other ≠ name) (hs : Headers) :
    first? (hs.filter (·.name != name)) other = hs.first? other := by
  unfold first?
  rw [List.find?_filter]
  congr 2
  funext header
  by_cases hname : header.name = other
  · simp [hname, h]
  · simp [hname]

end Headers

end Http

end Gatehouse
