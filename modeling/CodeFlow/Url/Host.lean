import CodeFlow.Text.Digit
import CodeFlow.Url.Domain
import CodeFlow.Url.Percent

/-!
# Hosts

A host is a name or a numeric address of one of two kinds. Names that end in a number are numeric
addresses of the shorter kind: one to four numbers, in decimal, octal or hexadecimal, of which the
last fills the bytes that are left. Addresses of the longer kind stand in brackets.
-/

namespace CodeFlow.Url

open CodeFlow.Text

/-- Why a text is no address. -/
inductive Fault where
  | emptyHost
  | invalidDomain
  | invalidPort
  | invalidShortAddress
  | invalidLongAddress
  | invalidHostCharacter
  | relativeWithoutBase
  | relativeToBare
deriving DecidableEq, Repr

/-- What is said about a fault. -/
def Fault.message : Fault → String
  | .emptyHost => "empty host"
  | .invalidDomain => "invalid international domain name"
  | .invalidPort => "invalid port number"
  | .invalidShortAddress => "invalid IPv4 address"
  | .invalidLongAddress => "invalid IPv6 address"
  | .invalidHostCharacter => "invalid domain character"
  | .relativeWithoutBase => "relative URL without a base"
  | .relativeToBare => "relative URL with a cannot-be-a-base base"

/-- A host. -/
inductive Host where
  /-- A name; the empty name where an address has none. -/
  | name (text : List Char)
  /-- Four bytes as one number. -/
  | short (bits : Nat)
  /-- Eight pieces of two bytes each. -/
  | long (pieces : List Nat)
deriving DecidableEq, Repr

/-! ## Short numeric addresses -/

/-- A number of an address: hexadecimal behind `0x`, octal behind a zero, else decimal. -/
def number? : List Char → Option Nat
  | [] => none
  | '0' :: 'x' :: cs => numberIn? 16 cs
  | '0' :: 'X' :: cs => numberIn? 16 cs
  | '0' :: c :: cs => numberIn? 8 (c :: cs)
  | cs => numberIn? 10 cs

/-- The labels without an empty one at the end. -/
def withoutFinalDot (ls : List (List Char)) : List (List Char) :=
  if ls.getLast? = some [] then ls.dropLast else ls

/-- The last label is a number, or has only decimal digits. -/
def endsInNumber (name : List Char) : Bool :=
  match (withoutFinalDot (labels name)).getLast? with
  | some last => (last ≠ [] && last.all fun c => '0' ≤ c && c ≤ '9') || (number? last).isSome
  | none => false

/-- The number that some numbers make together. -/
def combine? (ns : List Nat) : Option Nat :=
  match ns.getLast? with
  | none => none
  | some last =>
    let front := ns.dropLast
    if front.length ≤ 3 ∧ front.all (· < 256) ∧ last < Nat.pow 256 (4 - front.length) then
      some (front.foldr (fun n rest => n * 0x1000000 + rest / 256) 0 + last)
    else none

/-- A short numeric address. -/
def readShort (name : List Char) : Except Fault Host :=
  match (withoutFinalDot (labels name)).mapM number? with
  | none => .error .invalidShortAddress
  | some ns =>
    match combine? ns with
    | none => .error .invalidShortAddress
    | some bits => .ok (.short bits)

/-! ## Long numeric addresses -/

/-- Up to four hexadecimal digits: their value, how many they are, and the rest. -/
def readPiece : (most n count : Nat) → List Char → Nat × Nat × List Char
  | 0, n, count, cs => (n, count, cs)
  | most + 1, n, count, c :: cs =>
    match digitIn? 16 c with
    | some d => readPiece most (n * 16 + d) (count + 1) cs
    | none => (n, count, c :: cs)
  | _ + 1, n, count, [] => (n, count, [])

/-- Four decimal numbers below 256 without leading zeros, as two pieces. -/
def readTail? (cs : List Char) : Option (List Nat) :=
  let part? (cs : List Char) : Option Nat :=
    if cs = [] ∨ (cs.head? = some '0' ∧ 1 < cs.length) then none
    else (numberIn? 10 cs).filter (· < 256)
  match (labels cs).mapM part? with
  | some [a, b, c, d] => some [a * 256 + b, c * 256 + d]
  | _ => none

/-- Pieces from one on, of which `n` came before. A gap is marked by nothing in its place. -/
def readPieces? : (fuel n : Nat) → List Char → Option (List (Option Nat))
  | _, _, [] => some []
  | 0, _, _ :: _ => none
  | fuel + 1, n, cs =>
    if 8 ≤ n then none
    else
      match cs with
      | ':' :: rest => (readPieces? fuel (n + 1) rest).map (none :: ·)
      | _ =>
        match readPiece 4 0 0 cs with
        | (v, count, rest) =>
          match rest with
          | [] => some [some v]
          | '.' :: _ =>
            if count = 0 ∨ 6 < n then none else (readTail? cs).map (List.map some)
          | ':' :: rest =>
            if count = 0 ∨ rest = [] then none
            else (readPieces? fuel (n + 1) rest).map (some v :: ·)
          | _ => none

/-- Pieces in which at most one gap stands for as many zeros as are missing. -/
def fillGap? (pieces : List (Option Nat)) : Option (List Nat) :=
  let missing := 8 - (pieces.length - 1)
  match pieces.count none with
  | 0 => if pieces.length = 8 then pieces.mapM id else none
  | 1 =>
    if 8 < pieces.length then none
    else some (pieces.flatMap fun p =>
      match p with
      | some v => [v]
      | none => List.replicate missing 0)
  | _ => none

/-- A long numeric address; the brackets have been taken. -/
def readLong (cs : List Char) : Except Fault Host :=
  let pieces :=
    match cs with
    | ':' :: ':' :: rest => (readPieces? cs.length 1 rest).map (none :: ·)
    | ':' :: _ => none
    | [] => none
    | [_] => none
    | cs => readPieces? cs.length 0 cs
  match pieces.bind fillGap? with
  | some ps => .ok (.long ps)
  | none => .error .invalidLongAddress

/-- A text in brackets, the opening one of which has been taken. -/
def readBracketed (cs : List Char) : Except Fault Host :=
  if cs.getLast? = some ']' then readLong cs.dropLast else .error .invalidLongAddress

/-! ## Reading -/

/-- A host of an address with a well-known scheme. -/
def readHost (cs : List Char) : Except Fault Host :=
  match cs with
  | '[' :: rest => readBracketed rest
  | cs =>
    match (Utf8.decode? (percentDecode (Utf8.encode cs))).bind domainToAscii? with
    | none => .error .invalidDomain
    | some [] => .error .emptyHost
    | some name => if endsInNumber name then readShort name else .ok (.name name)

/-- Characters that a host of another scheme cannot hold. -/
def isHostDelimiter (c : Char) : Bool :=
  "\x00\t\n\r #/:<>?@[\\]^|".toList.contains c

/-- A host of an address with any other scheme. -/
def readPlainHost (cs : List Char) : Except Fault Host :=
  match cs with
  | '[' :: rest => readBracketed rest
  | cs =>
    if cs.any isHostDelimiter then .error .invalidHostCharacter
    else .ok (.name (percentEncode isVisible cs))

/-! ## Writing -/

/-- A number in decimal. -/
def decimal (n : Nat) : List Char :=
  Nat.toDigits 10 n

/-- A short address as four numbers. -/
def writeShort (bits : Nat) : List Char :=
  decimal (bits / 0x1000000 % 256) ++ '.' :: decimal (bits / 0x10000 % 256) ++
    '.' :: decimal (bits / 256 % 256) ++ '.' :: decimal (bits % 256)

/-- The length of the run of zeros in front. -/
def zeros (pieces : List Nat) : Nat :=
  (pieces.takeWhile (· == 0)).length

/-- The longest run of zeros: where it begins and its length; the first of several. -/
def longestZeros : (start : Nat) → List Nat → Nat × Nat
  | start, [] => (start, 0)
  | start, p :: ps =>
    let here := zeros (p :: ps)
    let later := longestZeros (start + 1) ps
    if later.2 ≤ here then (start, here) else later

/-- Pieces in hexadecimal with colons between them. -/
def writePieces (pieces : List Nat) : List Char :=
  List.intercalate [':'] (pieces.map (Nat.toDigits 16))

/-- A long address; its longest run of at least two zeros is left out. -/
def writeLong (pieces : List Nat) : List Char :=
  let (start, count) := longestZeros 0 pieces
  if count < 2 then writePieces pieces
  else writePieces (pieces.take start) ++ [':', ':'] ++ writePieces (pieces.drop (start + count))

/-- A host as it stands in an address. -/
def Host.write : Host → List Char
  | .name text => text
  | .short bits => writeShort bits
  | .long pieces => '[' :: writeLong pieces ++ [']']

end CodeFlow.Url
