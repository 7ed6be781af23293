import CodeFlow.Text.Blank
import CodeFlow.Url.Punycode

/-!
# Domain names in ASCII

The form of a domain name that is looked up: letters small, and every label beyond ASCII as
Punycode behind `xn--`. Letters are made small for the Latin, Greek, Cyrillic and Armenian
alphabets and for the full-width forms of ASCII; characters that never show are left out.

The tables are assumed to stand for those of Unicode, of which they are a part: of a name beyond
ASCII it is assumed that its characters are composed, that none but the full-width forms of ASCII
has another character that it is compatible with, and that neither joiners nor text from right to
left make it invalid. Names in ASCII need no such assumption, and no proof looks at more of the
tables than that.
-/

namespace CodeFlow.Url

/-! ## Characters -/

/-- A code point in a closed range. -/
def between (a b n : Nat) : Bool :=
  a ≤ n && n ≤ b

/-- Characters that do not show: the soft hyphen, joiners, variation selectors, the byte order
mark. -/
def isInvisible (n : Nat) : Bool :=
  n == 0xAD || n == 0x34F || n == 0x200B || n == 0x2060 || n == 0x2064 || n == 0xFEFF ||
    between 0x180B 0x180D n || between 0xFE00 0xFE0F n

/-- Blocks in which capital and small letters alternate, the capitals on even code points. -/
def isPaired (n : Nat) : Bool :=
  between 0x100 0x137 n || between 0x14A 0x177 n || between 0x1DE 0x1EF n ||
    between 0x1F8 0x21F n || between 0x222 0x233 n || between 0x370 0x373 n ||
    between 0x3D8 0x3EF n || between 0x460 0x481 n || between 0x48A 0x4BF n ||
    between 0x4D0 0x52F n || between 0x1E00 0x1E95 n || between 0x1EA0 0x1EFF n

/-- Blocks in which capital and small letters alternate, the capitals on odd code points. -/
def isPairedOdd (n : Nat) : Bool :=
  between 0x139 0x148 n || between 0x179 0x17E n || between 0x1CD 0x1DC n ||
    between 0x4C1 0x4CE n

/-- The small letter for a code point. -/
def smallLetter (n : Nat) : Nat :=
  if between 65 90 n then n + 32
  else if between 0xC0 0xDE n && n != 0xD7 then n + 32
  else if n == 0x178 then 0xFF
  else if between 0x391 0x3AB n && n != 0x3A2 then n + 32
  else if between 0x400 0x40F n then n + 80
  else if between 0x410 0x42F n then n + 32
  else if between 0x531 0x556 n then n + 48
  else if isPaired n then n + (1 - n % 2)
  else if isPairedOdd n then n + n % 2
  else n

/-- The characters that end a label, besides the full stop. -/
def isFullStop (n : Nat) : Bool :=
  n == 0x3002 || n == 0xFF0E || n == 0xFF61

/-- What a character of a name becomes. -/
def foldChar (c : Char) : List Char :=
  let n := c.toNat
  if isInvisible n then []
  else if isFullStop n then ['.']
  else if between 0xFF01 0xFF5E n then [Char.ofNat (smallLetter (n - 0xFEE0))]
  else if n == 0x1E9E then ['s', 's']
  else [Char.ofNat (smallLetter n)]

/-- Characters that no name holds: white space and controls, the signs that have a meaning in an
address, and code points that are no characters. -/
def isForbidden (c : Char) : Bool :=
  let n := c.toNat
  n ≤ 0x20 || between 0x7F 0x9F n || Text.isBlank c || "%#/:<>?@[\\]^|".toList.contains c ||
    between 0xE000 0xF8FF n || between 0xFFF0 0xFFFF n || between 0xFDD0 0xFDEF n ||
    between 0x200E 0x200F n || between 0x2028 0x202E n || between 0x2FF0 0x2FFF n || 0xE0000 ≤ n ||
    n % 65536 ≥ 65534

/-- Characters that only stand behind another. -/
def isCombining (c : Char) : Bool :=
  let n := c.toNat
  between 0x300 0x36F n || between 0x483 0x489 n || between 0x591 0x5BD n ||
    between 0x64B 0x65F n || between 0x900 0x903 n || between 0x93A 0x93C n ||
    between 0x1AB0 0x1AFF n || between 0x1DC0 0x1DFF n || between 0x20D0 0x20FF n ||
    between 0x3099 0x309A n || between 0xFE20 0xFE2F n

/-! ## Labels and names -/

/-- A label that Punycode stands for: it has characters beyond ASCII, all of them already in the
form that is looked up. -/
def isDecodedLabel (label : List Char) : Bool :=
  label.any (fun c => 128 ≤ c.toNat) && label.all (fun c => foldChar c == [c] && !isForbidden c) &&
    !(label.head?.any isCombining)

/-- The ASCII form of a label. -/
def labelToAscii? (label : List Char) : Option (List Char) :=
  if label.all (fun c => c.toNat < 128) then
    if label.take 4 = ['x', 'n', '-', '-'] then
      match Punycode.decode? (label.drop 4) with
      | some decoded => if isDecodedLabel decoded then some label else none
      | none => none
    else some label
  else if label.head?.any isCombining || label.take 4 = ['x', 'n', '-', '-'] then none
  else some (['x', 'n', '-', '-'] ++ Punycode.encode label)

/-- The labels of a name. -/
def labels : List Char → List (List Char)
  | [] => [[]]
  | c :: cs =>
    if c = '.' then [] :: labels cs
    else
      match labels cs with
      | [] => [[c]]
      | l :: ls => (c :: l) :: ls

/-- Labels with a full stop between each two. -/
def joinLabels : List (List Char) → List Char
  | [] => []
  | [l] => l
  | l :: ls => l ++ '.' :: joinLabels ls

/-- The ASCII form of a name; nothing if it has none. -/
def domainToAscii? (name : List Char) : Option (List Char) :=
  let folded := name.flatMap foldChar
  if folded.any isForbidden then none
  else ((labels folded).mapM labelToAscii?).map joinLabels

end CodeFlow.Url
