import CodeFlow.Rsa.Oaep

/-!
# Padding that comes off

A mask that is put on twice is taken off. So whoever has all of the padded bytes first gets the
seed out of them, with a mask that the block determines, and then the block, with a mask that the
seed determines; the message stands behind the one in the block.
-/

namespace CodeFlow.Rsa

open CodeFlow.Digest

/-! ## Masks -/

/-- The mask comes off if it covers all of the bytes. -/
theorem xor_xor {bs mask : List UInt8} (h : bs.length ≤ mask.length) :
    xor (xor bs mask) mask = bs := by
  induction bs generalizing mask with
  | nil => rfl
  | cons b bs ih =>
    cases mask with
    | nil => simp at h
    | cons m mask =>
      have hrest : bs.length ≤ mask.length := by simpa using h
      have hbyte : (b ^^^ m) ^^^ m = b := by
        rw [UInt8.xor_assoc, UInt8.xor_self, UInt8.xor_zero]
      change ((b ^^^ m) ^^^ m) :: xor (xor bs mask) mask = b :: bs
      rw [hbyte, ih hrest]

theorem length_digests (seed : List UInt8) (counter count : Nat) :
    (digests seed counter count).length = count * digestSize := by
  induction count generalizing counter with
  | zero => simp [digests]
  | succ count ih =>
    rw [digests, List.length_append, Sha256.digest_length, ih, digestSize]
    omega

theorem length_mask (seed : List UInt8) (n : Nat) : (mask seed n).length = n := by
  -- the digests are as many as it takes to have n bytes
  have henough : n ≤ (n + digestSize - 1) / digestSize * digestSize := by
    unfold digestSize
    omega
  rw [mask, List.length_take, length_digests, Nat.min_eq_left henough]

/-- What is masked keeps its length. -/
theorem length_xor_mask {bs : List UInt8} {n : Nat} (seed : List UInt8) (h : bs.length = n) :
    (xor bs (mask seed n)).length = n := by
  rw [xor, List.length_zipWith, length_mask, h, Nat.min_self]

/-- A mask that is put on twice is taken off. -/
theorem xor_mask_xor_mask {bs : List UInt8} {n : Nat} (seed : List UInt8) (h : bs.length = n) :
    xor (xor bs (mask seed n)) (mask seed n) = bs := by
  apply xor_xor
  simp [length_mask, h]

/-! ## Blocks -/

theorem length_labelDigest : labelDigest.length = digestSize := Sha256.digest_length []

theorem messageLimit?_of_lt {k : Nat} (h : k < 66) : messageLimit? k = none :=
  if_pos h

theorem messageLimit?_of_le {k : Nat} (h : 66 ≤ k) : messageLimit? k = some (k - 66) :=
  if_neg (Nat.not_lt.mpr h)

section Padding

variable {k : Nat} {seed message : List UInt8} (hmessage : message.length + 66 ≤ k)

include hmessage

theorem length_block : (block k message).length = k - digestSize - 1 := by
  simp only [block, List.length_append, List.length_cons, List.length_replicate,
    length_labelDigest]
  unfold digestSize
  omega

omit hmessage in
/-- The message is found behind the digest, the zeros and the one. -/
theorem messageOf?_block : messageOf? (block k message) = some message := by
  have htake : (block k message).take digestSize = labelDigest := by
    rw [block, List.append_assoc, List.take_left' length_labelDigest]
  have hdrop : (block k message).drop digestSize =
      List.replicate (k - message.length - (2 * digestSize + 2)) 0 ++ 1 :: message := by
    rw [block, List.append_assoc, List.drop_left' length_labelDigest]
  have hzeros (n : Nat) : (List.replicate n (0 : UInt8) ++ 1 :: message).dropWhile (· = 0) =
      1 :: message := by
    rw [List.dropWhile_append_of_pos (by simp)]
    rfl
  rw [messageOf?, htake, hdrop, hzeros]
  simp

/-! ## Padded messages -/

/-- The block in padded bytes, under its mask. -/
def maskedBlock (k : Nat) (seed message : List UInt8) : List UInt8 :=
  xor (block k message) (mask seed (k - digestSize - 1))

/-- The seed in padded bytes, under its mask. -/
def maskedSeed (k : Nat) (seed message : List UInt8) : List UInt8 :=
  xor seed (mask (maskedBlock k seed message) digestSize)

omit hmessage in
theorem pad_eq :
    pad k seed message = 0 :: (maskedSeed k seed message ++ maskedBlock k seed message) := rfl

theorem length_maskedBlock : (maskedBlock k seed message).length = k - digestSize - 1 :=
  length_xor_mask seed (length_block hmessage)

omit hmessage in
theorem length_maskedSeed (hseed : seed.length = digestSize) :
    (maskedSeed k seed message).length = digestSize :=
  length_xor_mask _ hseed

variable (hseed : seed.length = digestSize)

include hseed

/-- Behind the zero in front, padded bytes leave one byte less than the key has. -/
theorem length_masked :
    (maskedSeed k seed message ++ maskedBlock k seed message).length + 1 = k := by
  rw [List.length_append, length_maskedSeed hseed, length_maskedBlock hmessage]
  unfold digestSize
  omega

theorem length_pad : (pad k seed message).length = k := by
  rw [pad_eq, List.length_cons, length_masked hmessage hseed]

/-- The padding comes off, whatever the seed. -/
theorem unpad?_pad : unpad? (pad k seed message) = some message := by
  have hfront : (maskedSeed k seed message).length = digestSize := length_maskedSeed hseed
  have hvalid : ¬((0 : UInt8) ≠ 0 ∨
      (maskedSeed k seed message ++ maskedBlock k seed message).length < 2 * digestSize + 1) := by
    have hlength := length_masked hmessage hseed
    unfold digestSize
    simp only [ne_eq, not_true_eq_false, false_or]
    omega
  -- first the seed comes out, with the mask that the block determines
  have hseedOut : xor (maskedSeed k seed message) (mask (maskedBlock k seed message) digestSize) =
      seed := xor_mask_xor_mask _ hseed
  -- then the block, with the mask that the seed determines
  have hblockOut : xor (maskedBlock k seed message) (mask seed (k - digestSize - 1)) =
      block k message := xor_mask_xor_mask _ (length_block hmessage)
  rw [pad_eq, unpad?, if_neg hvalid]
  simp only [List.drop_left' hfront, List.take_left' hfront, hseedOut,
    length_maskedBlock hmessage, hblockOut, messageOf?_block]

end Padding

end CodeFlow.Rsa
