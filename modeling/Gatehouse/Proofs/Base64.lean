import Gatehouse.Encoding.Base64
import Gatehouse.Proofs.Ascii

/-!
# Bytes in base 64 are read as they were written

Bytes are written group by group, each character for the next six bits of its group. The values of
the characters (`sextets`) are read back group by group, too, so no byte is lost; and since a reader
takes no bit that no byte uses, a text is read as the bytes that it is the written form of
(`decode?_eq_some`).
-/

namespace Gatehouse.Encoding

theorem ofNat_eq_of_mod {n : Nat} {x : UInt8} (h : n % 256 = x.toNat) : UInt8.ofNat n = x := by
  rw [← UInt8.toNat_inj, UInt8.toNat_ofNat', ← h]

namespace Base64

variable {a : Base64} {l : List UInt8}

/-- The values of the characters that bytes are written with. -/
def sextets : List UInt8 → List Nat
  | [] => []
  | [x] => [x.toNat * 16 / 64, x.toNat * 16 % 64]
  | [x, y] =>
    let n := (x.toNat * 256 + y.toNat) * 4
    [n / 4096, n / 64 % 64, n % 64]
  | x :: y :: z :: rest =>
    let n := (x.toNat * 256 + y.toNat) * 256 + z.toNat
    n / 262144 :: n / 4096 % 64 :: n / 64 % 64 :: n % 64 :: sextets rest

theorem encode_eq_map (a : Base64) (l : List UInt8) : a.encode l = (sextets l).map a.char := by
  induction l using sextets.induct with
  | case1 => rfl
  | case2 x => rfl
  | case3 x y => rfl
  | case4 x y z rest ih =>
    rw [encode, sextets, ih]
    rfl

theorem lt_of_mem_sextets {n : Nat} (h : n ∈ sextets l) : n < 64 := by
  induction l using sextets.induct with
  | case1 => cases h
  | case2 x =>
    have hx := x.toNat_lt
    simp only [sextets, List.mem_cons, List.not_mem_nil, or_false] at h
    omega
  | case3 x y =>
    have hx := x.toNat_lt
    have hy := y.toNat_lt
    simp only [sextets, List.mem_cons, List.not_mem_nil, or_false] at h
    omega
  | case4 x y z rest ih =>
    have hx := x.toNat_lt
    have hy := y.toNat_lt
    have hz := z.toNat_lt
    rw [sextets] at h
    simp only [List.mem_cons] at h
    rcases h with h | h | h | h | h
    · omega
    · omega
    · omega
    · omega
    · exact ih h

theorem length_sextets (l : List UInt8) : (sextets l).length = (4 * l.length + 2) / 3 := by
  induction l using sextets.induct with
  | case1 => rfl
  | case2 x => simp [sextets]
  | case3 x y => simp [sextets]
  | case4 x y z rest ih =>
    simp only [sextets, List.length_cons, ih]
    omega

theorem bytes?_sextets (l : List UInt8) : bytes? (sextets l) = some l := by
  induction l using sextets.induct with
  | case1 => rfl
  | case2 x =>
    have hx := x.toNat_lt
    simp only [sextets, bytes?]
    rw [if_pos (by omega), ofNat_eq_of_mod (x := x) (by omega)]
  | case3 x y =>
    have hx := x.toNat_lt
    have hy := y.toNat_lt
    simp only [sextets, bytes?]
    rw [if_pos (by omega), ofNat_eq_of_mod (x := x) (by omega), ofNat_eq_of_mod (x := y) (by omega)]
  | case4 x y z rest ih =>
    have hx := x.toNat_lt
    have hy := y.toNat_lt
    have hz := z.toNat_lt
    simp only [sextets, bytes?, ih]
    refine congrArg some ?_
    rw [ofNat_eq_of_mod (x := x) (by omega), ofNat_eq_of_mod (x := y) (by omega),
      ofNat_eq_of_mod (x := z) (by omega)]

theorem value?_char : ∀ n < 64, standard.value? (standard.char n) = some n := by decide

theorem mapM_value?_char {ns : List Nat} (h : ∀ n ∈ ns, n < 64) :
    (ns.map standard.char).mapM standard.value? = some ns := by
  induction ns with
  | nil => rfl
  | cons n ns ih =>
    have hn := value?_char n (h n List.mem_cons_self)
    have hns := ih fun m hm => h m (List.mem_cons_of_mem n hm)
    rw [List.map_cons, List.mapM_cons, hn, hns]
    rfl

theorem decode?_encode (l : List UInt8) : standard.decode? (standard.encode l) = some l := by
  unfold decode?
  rw [encode_eq_map, mapM_value?_char fun n hn => lt_of_mem_sextets hn]
  exact bytes?_sextets l

theorem toNat_ofNat_of_lt {n : Nat} (h : n < 256) : (UInt8.ofNat n).toNat = n := by
  rw [UInt8.toNat_ofNat', Nat.mod_eq_of_lt h]

theorem sextets_of_bytes? {ns : List Nat} (hns : ∀ n ∈ ns, n < 64) (h : bytes? ns = some l) :
    sextets l = ns := by
  fun_induction bytes? ns generalizing l with
  | case1 =>
    cases h
    rfl
  | case2 => cases h
  | case3 p q n =>
    cases h
    simp only [List.forall_mem_cons] at hns
    simp only [sextets, List.cons.injEq, and_true]
    rw [toNat_ofNat_of_lt (by omega)]
    omega
  | case4 => cases h
  | case5 p q r n =>
    cases h
    simp only [List.forall_mem_cons] at hns
    simp only [sextets, List.cons.injEq, and_true]
    rw [toNat_ofNat_of_lt (by omega), UInt8.toNat_ofNat']
    omega
  | case6 => cases h
  | case7 p q r s rest n =>
    rename_i ih
    have hn : n = ((p * 64 + q) * 64 + r) * 64 + s := rfl
    simp only [List.forall_mem_cons] at hns
    obtain ⟨hp, hq, hr, hs, hrest⟩ := hns
    simp only [Option.bind_eq_bind, Option.bind_eq_some_iff, Option.pure_def] at h
    obtain ⟨tail, htail, h⟩ := h
    cases h
    simp only [sextets, ih hrest htail, List.cons.injEq, and_true]
    rw [toNat_ofNat_of_lt (by omega), UInt8.toNat_ofNat', UInt8.toNat_ofNat']
    omega

theorem value?_lt_ascii : ∀ n < 128, ∀ m ∈ standard.value? (Char.ofNat n),
    m < 64 ∧ standard.char m = Char.ofNat n := by
  decide +kernel

theorem value?_eq_some {c : Char} {n : Nat} :
    standard.value? c = some n ↔ n < 64 ∧ standard.char n = c := by
  constructor
  · intro h
    by_cases hascii : c.toNat < 128
    · rw [← Char.ofNat_toNat c] at h ⊢
      exact value?_lt_ascii c.toNat hascii n h
    · have hnot : ∀ d : Char, d.toNat < 128 → ¬c ≤ d :=
        fun d => Text.not_le_of_high (Nat.le_of_not_lt hascii)
      have hne : ∀ d : Char, d.toNat < 128 → c ≠ d := by
        rintro d hd rfl
        exact hascii hd
      unfold value? standard at h
      simp [hnot 'Z' (by decide), hnot 'z' (by decide), hnot '9' (by decide),
        hne '+' (by decide), hne '/' (by decide)] at h
  · rintro ⟨hn, rfl⟩
    exact value?_char n hn

theorem map_char_of_mapM {cs : List Char} {ns : List Nat} (h : cs.mapM standard.value? = some ns) :
    (∀ n ∈ ns, n < 64) ∧ ns.map standard.char = cs := by
  induction cs generalizing ns with
  | nil =>
    cases h
    simp
  | cons c cs ih =>
    simp only [List.mapM_cons, Option.bind_eq_bind, Option.bind_eq_some_iff, Option.pure_def,
      Option.some_inj] at h
    obtain ⟨n, hn, rest, hrest, rfl⟩ := h
    obtain ⟨hlt, hc⟩ := value?_eq_some.mp hn
    obtain ⟨hlts, hcs⟩ := ih hrest
    rw [List.map_cons, hc, hcs]
    exact ⟨List.forall_mem_cons.mpr ⟨hlt, hlts⟩, rfl⟩

/-- Every list of bytes has one written form. -/
theorem decode?_eq_some {cs : List Char} :
    standard.decode? cs = some l ↔ cs = standard.encode l := by
  constructor
  · intro h
    unfold decode? at h
    obtain ⟨ns, hns, hbytes⟩ := Option.bind_eq_some_iff.mp h
    obtain ⟨hlt, rfl⟩ := map_char_of_mapM hns
    rw [encode_eq_map, sextets_of_bytes? hlt hbytes]
  · rintro rfl
    exact decode?_encode l

theorem length_encode (l : List UInt8) : (a.encode l).length = (4 * l.length + 2) / 3 := by
  rw [encode_eq_map, List.length_map, length_sextets]

/-- What is true of every character of the alphabet is true of every character that is written. -/
theorem forall_mem_encode {p : Char → Prop} (h : ∀ n < 64, p (a.char n)) :
    ∀ c ∈ a.encode l, p c := by
  intro c hc
  rw [encode_eq_map] at hc
  obtain ⟨n, hn, rfl⟩ := List.mem_map.mp hc
  exact h n (lt_of_mem_sextets hn)

end Base64

end Gatehouse.Encoding
