import CodeFlow.Rsa.Oaep
import Mathlib.Algebra.Group.Nat.Defs
import Mathlib.Data.List.Induction

/-!
# Numbers as bytes

Bytes and the number that they stand for determine each other, once it is known how many bytes
there are. The size of a key is the number of bytes that its modulus needs.
-/

namespace CodeFlow.Rsa

/-! ## Bytes and numbers -/

theorem ofBytes_concat (bs : List UInt8) (b : UInt8) :
    ofBytes (bs ++ [b]) = ofBytes bs * 256 + b.toNat := by
  simp [ofBytes]

/-- A zero in front changes nothing. -/
theorem ofBytes_zero_cons (bs : List UInt8) : ofBytes (0 :: bs) = ofBytes bs := rfl

theorem ofBytes_lt (bs : List UInt8) : ofBytes bs < 256 ^ bs.length := by
  induction bs using List.reverseRecOn with
  | nil => decide
  | append_singleton bs b ih =>
    have hb := b.toNat_lt
    rw [ofBytes_concat, List.length_append, List.length_singleton, Nat.pow_succ]
    omega

theorem ofBytes_toBytes {k n : Nat} (h : n < 256 ^ k) : ofBytes (toBytes k n) = n := by
  induction k generalizing n with
  | zero =>
    rw [Nat.pow_zero] at h
    rw [toBytes, Nat.lt_one_iff.mp h]
    rfl
  | succ k ih =>
    have hfront : n / 256 < 256 ^ k := by
      rw [Nat.pow_succ] at h
      omega
    have hlast : (UInt8.ofNat n).toNat = n % 256 := UInt8.toNat_ofNat'
    rw [toBytes, ofBytes_concat, ih hfront, hlast]
    omega

theorem toBytes_ofBytes (bs : List UInt8) : toBytes bs.length (ofBytes bs) = bs := by
  induction bs using List.reverseRecOn with
  | nil => rfl
  | append_singleton bs b ih =>
    have hb := b.toNat_lt
    have hfront : (ofBytes bs * 256 + b.toNat) / 256 = ofBytes bs := by omega
    -- only the last byte of a number counts for its last byte
    have hlast : UInt8.ofNat (ofBytes bs * 256 + b.toNat) = b := by
      apply UInt8.toNat_inj.mp
      rw [UInt8.toNat_ofNat']
      omega
    rw [ofBytes_concat, List.length_append, List.length_singleton, toBytes, hfront, hlast, ih]

/-! ## The size of a key -/

namespace PublicKey

theorem modulus_ne_zero (key : PublicKey) : key.modulus ≠ 0 := by
  obtain ⟨-, hodd, -⟩ := key.usable
  intro hzero
  rw [hzero] at hodd
  cases hodd

theorem size_eq (key : PublicKey) : key.size = key.modulus.log2 / 8 + 1 := by
  rw [size, bitLength, if_neg key.modulus_ne_zero]
  omega

/-- The modulus fits into as many bytes as the key has. -/
theorem modulus_lt (key : PublicKey) : key.modulus < 256 ^ key.size := by
  have hbits : key.modulus < 2 ^ (key.modulus.log2 + 1) := Nat.lt_log2_self
  have hround : 2 ^ (key.modulus.log2 + 1) ≤ 2 ^ (8 * key.size) := by
    apply Nat.pow_le_pow_right (by decide)
    rw [key.size_eq]
    omega
  calc key.modulus < 2 ^ (key.modulus.log2 + 1) := hbits
    _ ≤ 2 ^ (8 * key.size) := hround
    _ = 256 ^ key.size := Nat.pow_mul 2 8 key.size

/-- It does not fit into fewer. -/
theorem le_modulus (key : PublicKey) : 256 ^ (key.size - 1) ≤ key.modulus := by
  have hround : 8 * (key.size - 1) ≤ key.modulus.log2 := by
    rw [key.size_eq]
    omega
  calc 256 ^ (key.size - 1) = 2 ^ (8 * (key.size - 1)) := (Nat.pow_mul 2 8 _).symm
    _ ≤ 2 ^ key.modulus.log2 := Nat.pow_le_pow_right (by decide) hround
    _ ≤ key.modulus := Nat.log2_self_le key.modulus_ne_zero

/-- Bytes with a zero in front, as many as the key has, stand for a number below the modulus. -/
theorem ofBytes_lt_modulus (key : PublicKey) {bs : List UInt8} (h : bs.length + 1 = key.size) :
    ofBytes (0 :: bs) < key.modulus := by
  rw [ofBytes_zero_cons]
  have hlength : bs.length = key.size - 1 := by omega
  exact Nat.lt_of_lt_of_le (hlength ▸ ofBytes_lt bs) key.le_modulus

end PublicKey

end CodeFlow.Rsa
