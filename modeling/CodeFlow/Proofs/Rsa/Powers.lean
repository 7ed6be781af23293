import CodeFlow.Rsa.Oaep
import Mathlib.Algebra.Group.Nat.Defs

/-!
# Powers modulo a number

Raising by squaring gives the power.
-/

namespace CodeFlow.Rsa

theorem powModOnto_eq (n acc b e : Nat) : powModOnto n acc b e = acc * b ^ e % n := by
  fun_induction powModOnto n acc b e with
  | case1 acc b => simp
  | case2 acc b e he ih =>
    simp only [dite_eq_ite] at ih
    -- split the exponent into its half and its last bit
    have hpow : b ^ e = (b * b) ^ (e / 2) * b ^ (e % 2) := by
      rw [← Nat.pow_two, ← Nat.pow_mul, ← Nat.pow_add, Nat.div_add_mod]
    -- the base may be reduced before it is raised
    have hsquare : (b * b % n) ^ (e / 2) % n = (b * b) ^ (e / 2) % n := (Nat.pow_mod ..).symm
    rw [ih, hpow]
    rcases Nat.mod_two_eq_zero_or_one e with h | h
    · rw [h, if_neg (by omega), Nat.mul_mod, hsquare, ← Nat.mul_mod]
      simp
    · rw [h, if_pos rfl, Nat.mul_mod, hsquare, Nat.mod_mod, ← Nat.mul_mod, Nat.pow_one,
        Nat.mul_assoc, Nat.mul_comm b]

theorem powMod_eq (b e n : Nat) : powMod b e n = b ^ e % n := by
  rw [powMod, powModOnto_eq, Nat.one_mul, ← Nat.pow_mod]

end CodeFlow.Rsa
