import CodeFlow.Digest.Sha256
import CodeFlow.Rsa.Key

/-!
# Encryption with padding

A message is padded to the length of the modulus before it is raised to the exponent: the digest of
an empty label, zeros, a one and the message make a block, which is masked with digests of a random
seed; the seed is masked with digests of the block. Decryption undoes this and accepts only what
has this form.
-/

namespace CodeFlow.Rsa

open CodeFlow.Digest

/-! ## Powers -/

/-- `acc * b ^ e` modulo `n`, by squaring. -/
def powModOnto (n acc b e : Nat) : Nat :=
  if e = 0 then acc % n
  else powModOnto n (if e % 2 = 1 then acc * b % n else acc) (b * b % n) (e / 2)
termination_by e
decreasing_by omega

/-- `b ^ e` modulo `n`. -/
def powMod (b e n : Nat) : Nat :=
  powModOnto n 1 (b % n) e

/-! ## Bytes of numbers -/

/-- The last `k` bytes of a number, the most significant first. -/
def toBytes (k n : Nat) : List UInt8 :=
  match k with
  | 0 => []
  | k + 1 => toBytes k (n / 256) ++ [UInt8.ofNat n]

@[simp] theorem toBytes_length (k n : Nat) : (toBytes k n).length = k := by
  induction k generalizing n with
  | zero => rfl
  | succ k ih => simp [toBytes, ih]

/-! ## Masks -/

/-- The length of a digest. -/
def digestSize : Nat := 32

/-- Digests of a seed and a counter, one after another, `count` of them from a counter on. -/
def digests (seed : List UInt8) : (counter count : Nat) → List UInt8
  | _, 0 => []
  | counter, count + 1 =>
    Sha256.digest (seed ++ toBytes 4 counter) ++ digests seed (counter + 1) count

/-- A mask of `n` bytes that a seed determines. -/
def mask (seed : List UInt8) (n : Nat) : List UInt8 :=
  (digests seed 0 ((n + digestSize - 1) / digestSize)).take n

/-- Bytes with a mask put over them or taken off. -/
def xor (bs mask : List UInt8) : List UInt8 :=
  List.zipWith (· ^^^ ·) bs mask

/-! ## Padding -/

/-- The digest of the empty label. -/
def labelDigest : List UInt8 := Sha256.digest []

/-- The greatest length of a message for a key of `k` bytes; nothing if not even the empty message
has room. -/
def messageLimit? (k : Nat) : Option Nat :=
  if k < 2 * digestSize + 2 then none else some (k - (2 * digestSize + 2))

/-- The block that holds a message, for a key of `k` bytes. -/
def block (k : Nat) (message : List UInt8) : List UInt8 :=
  labelDigest ++ List.replicate (k - message.length - (2 * digestSize + 2)) 0 ++ 1 :: message

/-- A message padded to `k` bytes. -/
def pad (k : Nat) (seed message : List UInt8) : List UInt8 :=
  let masked := xor (block k message) (mask seed (k - digestSize - 1))
  0 :: xor seed (mask masked digestSize) ++ masked

/-- The message in a block: behind the digest, zeros and a one. -/
def messageOf? (block : List UInt8) : Option (List UInt8) :=
  if block.take digestSize ≠ labelDigest then none
  else
    match (block.drop digestSize).dropWhile (· = 0) with
    | b :: message => if b = 1 then some message else none
    | [] => none

/-- The message in padded bytes. -/
def unpad? (padded : List UInt8) : Option (List UInt8) :=
  match padded with
  | [] => none
  | b :: rest =>
    if b ≠ 0 ∨ rest.length < 2 * digestSize + 1 then none
    else
      let masked := rest.drop digestSize
      let seed := xor (rest.take digestSize) (mask masked digestSize)
      messageOf? (xor masked (mask seed masked.length))

/-! ## Encryption -/

/-- Why a message is not encrypted. -/
inductive EncryptFault where
  | messageTooLong
deriving DecidableEq

/-- What is said about a fault. -/
def EncryptFault.message : EncryptFault → String
  | .messageTooLong => "message too long"

/-- The ciphertext of a message; the seed is drawn at random. -/
def PublicKey.encrypt (key : PublicKey) (seed message : List UInt8) :
    Except EncryptFault (List UInt8) :=
  match messageLimit? key.size with
  | none => .error .messageTooLong
  | some limit =>
    if limit < message.length then .error .messageTooLong
    else
      .ok (toBytes key.size
        (powMod (ofBytes (pad key.size seed message)) key.exponent key.modulus))

/-- The message in a ciphertext, with the private exponent. -/
def PublicKey.decrypt? (key : PublicKey) (privateExponent : Nat) (ciphertext : List UInt8) :
    Option (List UInt8) :=
  if ciphertext.length ≠ key.size ∨ key.modulus ≤ ofBytes ciphertext then none
  else unpad? (toBytes key.size (powMod (ofBytes ciphertext) privateExponent key.modulus))

end CodeFlow.Rsa
