import CodeFlow.Rsa.Envelope

/-!
# Public keys

The encoding of a public key is a nest of tagged values: a header that names the algorithm, and a
string of bits that holds the modulus and the exponent. Every length and number has one encoding
only, and nothing may follow a value that is complete.
-/

namespace CodeFlow.Rsa

/-! ## Tagged values -/

/-- A number from its bytes, the most significant first. -/
def ofBytes (bs : List UInt8) : Nat :=
  bs.foldl (fun n b => n * 256 + b.toNat) 0

/-- The length of a value: one byte below 128, else up to four bytes behind their number, as few
as can hold it. -/
def readLength? : List UInt8 → Option (Nat × List UInt8)
  | [] => none
  | b :: rest =>
    if b < 0x80 then some (b.toNat, rest)
    else
      let count := b.toNat - 0x80
      let n := ofBytes (rest.take count)
      -- 128 alone would leave the length open
      if count = 0 ∨ 4 < count ∨ rest.length < count then none
      -- a length that fits in fewer bytes has a shorter encoding, which alone is right
      else if n < 128 ∨ n < Nat.pow 256 (count - 1) ∨ 0x10000000 ≤ n then none
      else some (n, rest.drop count)

/-- The content of a value with a tag, and what stands behind it. -/
def readTagged? (tag : UInt8) : List UInt8 → Option (List UInt8 × List UInt8)
  | [] => none
  | b :: rest =>
    if b ≠ tag then none
    else
      match readLength? rest with
      | none => none
      | some (n, rest) => if rest.length < n then none else some (rest.take n, rest.drop n)

/-- The number in a value: not negative, and without a zero in front that it does not need. -/
def natOf? : List UInt8 → Option Nat
  | [] => none
  | [b] => if b < 0x80 then some b.toNat else none
  | b :: c :: rest =>
    if 0x80 ≤ b ∨ (b = 0 ∧ c < 0x80) then none else some (ofBytes (b :: c :: rest))

/-- A number, and what stands behind it. -/
def readNat? (bs : List UInt8) : Option (Nat × List UInt8) :=
  match readTagged? 0x02 bs with
  | none => none
  | some (content, rest) => (natOf? content).map (·, rest)

/-- The header of an RSA key: the name of the algorithm, and no parameters. -/
def rsaHeader : List UInt8 :=
  [0x06, 0x09, 0x2a, 0x86, 0x48, 0x86, 0xf7, 0x0d, 0x01, 0x01, 0x01, 0x05, 0x00]

/-- The only value in some bytes. -/
def onlyTagged? (tag : UInt8) (bs : List UInt8) : Option (List UInt8) :=
  match readTagged? tag bs with
  | some (content, []) => some content
  | _ => none

/-- Modulus and exponent of an encoded key. -/
def readNumbers? (der : List UInt8) : Option (Nat × Nat) := do
  let whole ← onlyTagged? 0x30 der
  let (header, rest) ← readTagged? 0x30 whole
  let bits ← onlyTagged? 0x03 rest
  if header ≠ rsaHeader ∨ bits.head? ≠ some 0 then none
  else
    let numbers ← onlyTagged? 0x30 (bits.drop 1)
    let (modulus, rest) ← readNat? numbers
    let (exponent, rest) ← readNat? rest
    if rest = [] then some (modulus, exponent) else none

/-! ## Keys -/

/-- The number of bits of a number. -/
def bitLength (n : Nat) : Nat :=
  if n = 0 then 0 else n.log2 + 1

/-- Numbers that make a key: a modulus that is odd and not too long, and an exponent that is odd,
not too long and below the modulus. -/
def Usable (modulus exponent : Nat) : Prop :=
  bitLength modulus ≤ 4096 ∧ modulus % 2 = 1 ∧ 2 ≤ exponent ∧ exponent < 0x200000000 ∧
    exponent % 2 = 1 ∧ exponent < modulus

instance (modulus exponent : Nat) : Decidable (Usable modulus exponent) :=
  inferInstanceAs (Decidable (_ ∧ _))

/-- A public key. -/
structure PublicKey where
  modulus : Nat
  exponent : Nat
  usable : Usable modulus exponent

/-- Why a published text is no public key. -/
inductive ImportFault where
  | envelope (fault : EnvelopeFault)
  | unusable

/-- What is said about a fault. -/
def ImportFault.message : ImportFault → String
  | .envelope fault => fault.message
  | .unusable => "the document holds no usable RSA key"

/-- The key that some bytes encode. -/
def PublicKey.ofDer? (der : List UInt8) : Option PublicKey :=
  match readNumbers? der with
  | none => none
  | some (modulus, exponent) =>
    if h : Usable modulus exponent then some ⟨modulus, exponent, h⟩ else none

/-- The key in a published text. -/
def PublicKey.ofPublished (published : String) : Except ImportFault PublicKey :=
  match unwrap published with
  | .error f => .error (.envelope f)
  | .ok der =>
    match PublicKey.ofDer? der with
    | none => .error .unusable
    | some key => .ok key

/-- The number of bytes of the modulus, which is the length of every ciphertext. -/
def PublicKey.size (key : PublicKey) : Nat :=
  (bitLength key.modulus + 7) / 8

end CodeFlow.Rsa
