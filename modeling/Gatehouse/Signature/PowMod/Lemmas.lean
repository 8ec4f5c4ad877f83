import Gatehouse.Signature.PowMod
import Mathlib
/-!
What repeated squaring computes. Main statement: `powMod` is the remainder of the power.
-/

namespace Gatehouse.Signature

theorem powMod_eq (m b e : Nat) : powMod m b e = b ^ e % m := by
  induction e using Nat.strongRecOn with
  | ind e ih =>
    rw [powMod]
    by_cases he : e = 0
    · simp [he]
    · have hsquare : powMod m b (e / 2) * powMod m b (e / 2) % m = b ^ (2 * (e / 2)) % m := by
        rw [ih (e / 2) (by omega), ← Nat.mul_mod, ← Nat.pow_add, Nat.two_mul]
      simp only [he, if_false, hsquare]
      by_cases hbit : e % 2 = 0
      · rw [if_pos hbit, show 2 * (e / 2) = e by omega]
      · rw [if_neg hbit, Nat.mod_mul_mod, ← Nat.pow_succ, show (2 * (e / 2)).succ = e by omega]

end Gatehouse.Signature
