import CodeFlow.Digest.Sha256
import CodeFlow.Text.Base64
import CodeFlow.Text.Utf8

/-!
# Proof of possession

Whoever starts a login keeps a random verifier and shows only its digest, the challenge; whoever
redeems the code must show the verifier. The random state of a login is written as a UUID.
-/

namespace CodeFlow.Pkce

open CodeFlow.Text CodeFlow.Digest

/-- The name of the only method by which a challenge is made. -/
def method : String := "S256"

/-- The challenge for a verifier: the digest of its text. -/
def challengeOf (verifier : String) : String :=
  String.ofList (Base64.encodeUrl (Sha256.digest (Utf8.bytesOf verifier)))

/-- How many random bytes make a verifier. -/
def verifierBytes : Nat := 32

/-- The verifier that random bytes make. -/
def verifierOf (draw : List UInt8) : String :=
  String.ofList (Base64.encodeUrl draw)

/-! ## States -/

/-- A hexadecimal digit in small letters. -/
def lowerHex (n : Nat) : Char :=
  if n < 10 then Char.ofNat (48 + n) else Char.ofNat (87 + n)

/-- A byte as two hexadecimal digits. -/
def hexByte (b : UInt8) : List Char :=
  [lowerHex (b.toNat / 16), lowerHex (b.toNat % 16)]

/-- Bytes as hexadecimal digits. -/
def hex (bs : List UInt8) : List Char :=
  bs.flatMap hexByte

/-- How many random bytes make a state. -/
def stateBytes : Nat := 16

/-- Random bytes with the marks of a random UUID: a version of four, and a variant of two bits. -/
def marked (draw : List UInt8) : List UInt8 :=
  (draw.modify 6 fun b => (b &&& 0x0F) ||| 0x40).modify 8 fun b => (b &&& 0x3F) ||| 0x80

/-- The state that random bytes make: a UUID in groups of digits. -/
def stateOf (draw : List UInt8) : String :=
  let bs := marked draw
  String.ofList (hex (bs.take 4) ++ '-' :: hex ((bs.drop 4).take 2) ++ '-' ::
    hex ((bs.drop 6).take 2) ++ '-' :: hex ((bs.drop 8).take 2) ++ '-' :: hex (bs.drop 10))

end CodeFlow.Pkce
