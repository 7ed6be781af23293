import CodeFlow.Flow.Attempt
import CodeFlow.Proofs.Rsa.Decryption
import CodeFlow.Proofs.Text.Base64
import Mathlib.NumberTheory.LucasLehmer

/-!
# Passwords that are sealed

A password is sealed for the backend if the key has room for it, and the backend, which holds the
private exponent, gets back exactly what was typed in.
-/

namespace CodeFlow

open CodeFlow.Text

/-- A key seals a password: what comes out, and what a private exponent makes of it. -/
structure Seals (key : Rsa.PublicKey) (d : Nat) (seed : Draw 32) (password : String) : Prop where
  /-- The modulus has as many bytes as the key. -/
  size : 256 ^ (key.size - 1) ≤ key.modulus ∧ key.modulus < 256 ^ key.size
  /-- The padding takes 66 bytes; the password has what is left of the modulus. -/
  fits : (∃ text, LoginFlow.encrypt key seed password = .ok text) ↔
    66 ≤ key.size ∧ password.utf8ByteSize ≤ key.size - 66
  /-- Without room, the encryption fails. -/
  fails : ¬(66 ≤ key.size ∧ password.utf8ByteSize ≤ key.size - 66) →
    LoginFlow.encrypt key seed password = .error (.encryptionFailed .messageTooLong)
  /-- The ciphertext has as many bytes as the modulus, in base64, and decrypts to the password. -/
  opens : ∀ text, LoginFlow.encrypt key seed password = .ok text →
    ∃ ciphertext : List UInt8, ciphertext.length = key.size ∧
      text = String.ofList (Base64.encode ciphertext) ∧
      Base64.decode (Utf8.bytesOf text) = .ok ciphertext ∧
      key.decrypt? d ciphertext = some (Utf8.bytesOf password)

namespace LoginFlow

variable {key : Rsa.PublicKey} {seed : Draw 32} {password text : String}

theorem encrypt_eq_ok_iff :
    encrypt key seed password = .ok text ↔
      ∃ ciphertext, key.encrypt seed.toList (Utf8.bytesOf password) = .ok ciphertext ∧
        text = String.ofList (Base64.encode ciphertext) := by
  unfold encrypt
  cases key.encrypt seed.toList (Utf8.bytesOf password) <;> simp [eq_comm]

/-- The base64 of a ciphertext reads back. -/
theorem decode_bytesOf_encode (ciphertext : List UInt8) :
    Base64.decode (Utf8.bytesOf (String.ofList (Base64.encode ciphertext))) = .ok ciphertext := by
  rw [Utf8.bytesOf, String.toList_ofList]
  exact Base64.decode_encode ciphertext

/-- The room for a password, counted in the bytes of its characters. -/
theorem hasRoom_iff :
    (Utf8.bytesOf password).length + 66 ≤ key.size ↔
      66 ≤ key.size ∧ password.utf8ByteSize ≤ key.size - 66 := by
  rw [Utf8.length_bytesOf]
  omega

end LoginFlow

/-- Every key seals every password, whatever the random bytes, so that every private exponent gets
it back; if there is no room, it says so. -/
theorem passwords_sealed {key : Rsa.PublicKey} {d : Nat} (hd : key.Inverts d) (seed : Draw 32)
    (password : String) : Seals key d seed password where
  size := ⟨key.le_modulus, key.modulus_lt⟩
  fits := by
    rw [← LoginFlow.hasRoom_iff]
    constructor
    · rintro ⟨text, htext⟩
      obtain ⟨ciphertext, hencrypt, -⟩ := LoginFlow.encrypt_eq_ok_iff.mp htext
      exact (Rsa.PublicKey.encrypt_eq_ok_iff.mp hencrypt).1
    · intro hroom
      exact ⟨_, LoginFlow.encrypt_eq_ok_iff.mpr ⟨_, Rsa.PublicKey.encrypt_of_le hroom, rfl⟩⟩
  fails hfull := by
    rw [← LoginFlow.hasRoom_iff] at hfull
    rw [LoginFlow.encrypt, Rsa.PublicKey.encrypt_of_lt (Nat.lt_of_not_le hfull)]
  opens text htext := by
    obtain ⟨ciphertext, hencrypt, rfl⟩ := LoginFlow.encrypt_eq_ok_iff.mp htext
    have hseed : seed.toList.length = Rsa.digestSize := Vector.length_toList
    exact ⟨ciphertext, Rsa.PublicKey.length_encrypt hencrypt, rfl,
      LoginFlow.decode_bytesOf_encode ciphertext,
      Rsa.PublicKey.decrypt?_of_encrypt hd hseed hencrypt⟩

/-! ## A key pair -/

/-- A key of 73 bytes whose modulus has two Mersenne primes. -/
def mersenneKey : Rsa.PublicKey :=
  ⟨(2 ^ 521 - 1) * (2 ^ 61 - 1), 65537, by decide +kernel⟩

/-- Its private exponent. -/
def mersenneExponent : Nat :=
  (31749 * Nat.lcm (2 ^ 521 - 2) (2 ^ 61 - 2) + 1) / 65537

theorem mersenneKey_inverts : mersenneKey.Inverts mersenneExponent := by
  have hp : (mersenne 521).Prime := lucas_lehmer_sufficiency _ (by simp) (by norm_num)
  have hq : (mersenne 61).Prime := lucas_lehmer_sufficiency _ (by simp) (by norm_num)
  apply Rsa.PublicKey.inverts_of_primes hp hq
  all_goals decide +kernel

theorem passwords_sealed_longest :
    mersenneKey.Inverts mersenneExponent ∧
      "hunter2".utf8ByteSize = mersenneKey.size - 66 ∧
      Seals mersenneKey mersenneExponent (.replicate 32 7) "hunter2" :=
  ⟨mersenneKey_inverts, by decide +kernel, passwords_sealed mersenneKey_inverts _ _⟩

end CodeFlow
