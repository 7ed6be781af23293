import CodeFlow.Proofs.Rsa.Bytes
import CodeFlow.Proofs.Rsa.Padding
import CodeFlow.Proofs.Rsa.Powers
import Mathlib.FieldTheory.Finite.Basic

/-!
# Decryption

A private exponent takes back what the exponent of a key does. Then whatever is encrypted with the
key can be decrypted with the private exponent; for a modulus of two primes there is such an
exponent by Fermat's theorem.
-/

namespace CodeFlow.Rsa

/-! ## Private exponents -/

/-- Raising to the exponent of a key and then to another one changes no number below the
modulus. -/
def PublicKey.Inverts (key : PublicKey) (d : Nat) : Prop :=
  ∀ x < key.modulus, x ^ (key.exponent * d) % key.modulus = x

theorem PublicKey.Inverts.powMod_powMod {key : PublicKey} {d x : Nat} (hd : key.Inverts d)
    (hx : x < key.modulus) :
    powMod (powMod x key.exponent key.modulus) d key.modulus = x := by
  rw [powMod_eq, powMod_eq, ← Nat.pow_mod, ← Nat.pow_mul]
  exact hd x hx

/-- An exponent that is one more than a multiple of `p - 1` does nothing modulo a prime `p`. -/
theorem pow_modEq_self {p m : Nat} (hp : p.Prime) (hm : m % (p - 1) = 1) (x : Nat) :
    x ^ m ≡ x [MOD p] := by
  have hsplit : m = (p - 1) * (m / (p - 1)) + 1 := by
    have hdivision := Nat.div_add_mod m (p - 1)
    rw [hm] at hdivision
    exact hdivision.symm
  by_cases hdvd : p ∣ x
  -- a multiple of the prime stays one, and Fermat's theorem is about all other numbers
  · have hzero : x ≡ 0 [MOD p] := Nat.modEq_zero_iff_dvd.mpr hdvd
    have hpow : x ^ m ≡ 0 [MOD p] := by
      rw [hsplit]
      exact Nat.modEq_zero_iff_dvd.mpr (dvd_pow hdvd (Nat.succ_ne_zero _))
    exact hpow.trans hzero.symm
  · have hfermat : x ^ (p - 1) ≡ 1 [MOD p] := by
      have hcoprime : x.Coprime p := ((Nat.Prime.coprime_iff_not_dvd hp).mpr hdvd).symm
      rw [← Nat.totient_prime hp]
      exact Nat.ModEq.pow_totient hcoprime
    calc x ^ m = (x ^ (p - 1)) ^ (m / (p - 1)) * x := by
          rw [← Nat.pow_mul, ← pow_succ, ← hsplit]
      _ ≡ 1 ^ (m / (p - 1)) * x [MOD p] := (hfermat.pow _).mul_right x
      _ = x := by rw [Nat.one_pow, Nat.one_mul]

/-- The private exponents of a modulus of two primes. -/
theorem PublicKey.inverts_of_primes {key : PublicKey} {p q d : Nat} (hp : p.Prime) (hq : q.Prime)
    (hne : p ≠ q) (hmodulus : key.modulus = p * q) (hpd : key.exponent * d % (p - 1) = 1)
    (hqd : key.exponent * d % (q - 1) = 1) : key.Inverts d := by
  intro x hx
  have hcoprime : p.Coprime q := (Nat.coprime_primes hp hq).mpr hne
  have hboth : x ^ (key.exponent * d) ≡ x [MOD p * q] :=
    (Nat.modEq_and_modEq_iff_modEq_mul hcoprime).mp
      ⟨pow_modEq_self hp hpd x, pow_modEq_self hq hqd x⟩
  rw [← hmodulus] at hboth
  rw [hboth, Nat.mod_eq_of_lt hx]

/-! ## Encrypting and decrypting -/

namespace PublicKey

variable {key : PublicKey} {seed message ciphertext : List UInt8} {d : Nat}

/-- A message is encrypted if its padding has room. -/
theorem encrypt_of_le (h : message.length + 66 ≤ key.size) :
    key.encrypt seed message = .ok (toBytes key.size
      (powMod (ofBytes (pad key.size seed message)) key.exponent key.modulus)) := by
  have hsize : 66 ≤ key.size := by omega
  have hroom : ¬key.size - 66 < message.length := by omega
  rw [encrypt, messageLimit?_of_le hsize]
  exact if_neg hroom

/-- Otherwise it is too long, even if it is empty. -/
theorem encrypt_of_lt (h : key.size < message.length + 66) :
    key.encrypt seed message = .error .messageTooLong := by
  by_cases hsize : key.size < 66
  · rw [encrypt, messageLimit?_of_lt hsize]
  · have hfull : key.size - 66 < message.length := by omega
    rw [encrypt, messageLimit?_of_le (Nat.le_of_not_lt hsize)]
    exact if_pos hfull

theorem encrypt_eq_ok_iff :
    key.encrypt seed message = .ok ciphertext ↔ message.length + 66 ≤ key.size ∧
      ciphertext = toBytes key.size
        (powMod (ofBytes (pad key.size seed message)) key.exponent key.modulus) := by
  rcases Nat.lt_or_ge key.size (message.length + 66) with hlt | hle
  · simp [encrypt_of_lt hlt, Nat.not_le.mpr hlt]
  · simp [encrypt_of_le hle, hle, eq_comm]

theorem length_encrypt (h : key.encrypt seed message = .ok ciphertext) :
    ciphertext.length = key.size := by
  obtain ⟨-, rfl⟩ := encrypt_eq_ok_iff.mp h
  exact toBytes_length ..

/-- Decrypting a number below the modulus raises it to the private exponent. -/
theorem decrypt?_toBytes {y : Nat} (hy : y < key.modulus) :
    key.decrypt? d (toBytes key.size y) =
      unpad? (toBytes key.size (powMod y d key.modulus)) := by
  have hnumber : ofBytes (toBytes key.size y) = y := ofBytes_toBytes (hy.trans key.modulus_lt)
  have hvalid : ¬((toBytes key.size y).length ≠ key.size ∨ key.modulus ≤ y) := by
    rw [toBytes_length]
    omega
  rw [decrypt?, hnumber, if_neg hvalid]

/-- What is encrypted is decrypted with a private exponent. -/
theorem decrypt?_of_encrypt (hd : key.Inverts d) (hseed : seed.length = digestSize)
    (h : key.encrypt seed message = .ok ciphertext) :
    key.decrypt? d ciphertext = some message := by
  obtain ⟨hroom, rfl⟩ := encrypt_eq_ok_iff.mp h
  -- the zero in front keeps the padded message below the modulus
  have hpadded : ofBytes (pad key.size seed message) < key.modulus := by
    rw [pad_eq]
    exact key.ofBytes_lt_modulus (length_masked hroom hseed)
  have hpower : powMod (ofBytes (pad key.size seed message)) key.exponent key.modulus <
      key.modulus := by
    rw [powMod_eq]
    exact Nat.mod_lt _ (Nat.pos_of_ne_zero key.modulus_ne_zero)
  -- the padded message has as many bytes as the key, so none of its zeros is lost
  have hbytes : toBytes key.size (ofBytes (pad key.size seed message)) =
      pad key.size seed message := by
    have hback := toBytes_ofBytes (pad key.size seed message)
    rw [length_pad hroom hseed] at hback
    exact hback
  rw [decrypt?_toBytes hpower, hd.powMod_powMod hpadded, hbytes, unpad?_pad hroom hseed]

end PublicKey

end CodeFlow.Rsa
