import Gatehouse.Digest.Argon2

/-!
# The length of digests

The state of BLAKE2b has eight words before and after every block, so a digest is as long as it is
asked to be, up to the eight words of the state (`length_blake2b`); and so is the digest of a
password (`length_argon2id`).
-/

namespace Gatehouse.Digest

namespace Blake2b

theorem size_mix (v : Work) (q : Nat × Nat × Nat × Nat) (x y : UInt64) :
    (mix v q x y).size = v.size := by
  simp only [mix, Array.size_setIfInBounds]

theorem size_steps (m : Array UInt64) (v : Work) (qs : List (Nat × Nat × Nat × Nat))
    (order : List Nat) : (steps m v qs order).size = v.size := by
  induction v, qs, order using steps.induct m with
  | case1 v q qs i j order ih => rw [steps, ih, size_mix]
  | case2 qs v order hdone => rw [steps.eq_2 m v qs order hdone]

theorem size_rounds (m : Array UInt64) (v : Work) (orders : List (List Nat)) :
    (orders.foldl (fun v order => steps m v quarters order) v).size = v.size := by
  induction orders generalizing v with
  | nil => rfl
  | cons order orders ih => rw [List.foldl_cons, ih, size_steps]

theorem length_compress {h : List UInt64} (hh : h.length = 8) (block : List UInt8) (count : Nat)
    (last : Bool) : (compress h block count last).length = 8 := by
  -- Only the size of the work vector matters, and the rounds keep it.
  have hv : ∀ v : Work, v.size = 16 →
      (List.zipWith (· ^^^ ·) h (List.zipWith (· ^^^ ·) (v.toList.take 8) (v.toList.drop 8))).length
        = 8 := by
    intro v hsize
    simp [hh, hsize]
  apply hv
  rw [size_rounds]
  cases last <;> simp [hh, iv]

theorem length_absorb {h : List UInt64} (hh : h.length = 8) (fuel count : Nat)
    (message : List UInt8) : (absorb fuel h count message).length = 8 := by
  induction fuel generalizing h count message with
  | zero => exact hh
  | succ fuel ih =>
    rw [absorb]
    by_cases hlast : (message.drop 128).isEmpty
    · rw [if_pos hlast]
      exact length_compress hh _ _ _
    · rw [if_neg hlast]
      exact ih (length_compress hh _ _ _) _ _

theorem length_flatMap_wordBytes (ws : List UInt64) :
    (ws.flatMap wordBytes).length = 8 * ws.length := by
  induction ws with
  | nil => rfl
  | cons w ws ih =>
    rw [List.flatMap_cons, List.length_append, ih, List.length_cons]
    simp only [wordBytes, List.length_cons, List.length_nil]
    omega

end Blake2b

variable {size : Nat}

theorem length_blake2b (h : size ≤ 64) (message : List UInt8) :
    (blake2b size message).length = size := by
  unfold blake2b
  rw [List.length_take, Blake2b.length_flatMap_wordBytes, Blake2b.length_absorb (by rfl)]
  omega

theorem length_argon2id (h : size ≤ 64) (v : Argon2.Version) (c : Argon2.Cost)
    (password salt data : List UInt8) : (argon2id v c size password salt data).length = size := by
  unfold argon2id Argon2.longDigest
  rw [if_pos h]
  exact length_blake2b h _

end Gatehouse.Digest
