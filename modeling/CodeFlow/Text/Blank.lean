/-!
# White space

The characters with the Unicode property White_Space, and the functions that strip them from
the ends of a text or from all of it. The table is the property as of Unicode 15 to 17, where it
did not change; core's `Char.isWhitespace` knows four of its 25 members.
-/

namespace CodeFlow.Text

/-! ## The table -/

/-- Closed ranges of the code points with the property White_Space, ascending and apart. -/
def blankRanges : List (Nat × Nat) :=
  [(0x09, 0x0D), (0x20, 0x20), (0x85, 0x85), (0xA0, 0xA0), (0x1680, 0x1680),
   (0x2000, 0x200A), (0x2028, 0x2029), (0x202F, 0x202F), (0x205F, 0x205F), (0x3000, 0x3000)]

/-- White space in the sense of the Unicode property. -/
def isBlank (c : Char) : Bool :=
  blankRanges.any fun r => r.1 ≤ c.toNat && c.toNat ≤ r.2

/-! ## Stripping -/

/-- The characters without the white space in front. -/
def trimStart (cs : List Char) : List Char :=
  cs.dropWhile isBlank

/-- The characters without the white space behind. -/
def trimEnd (cs : List Char) : List Char :=
  (trimStart cs.reverse).reverse

/-- The characters without the white space at either end. -/
def trim (cs : List Char) : List Char :=
  trimEnd (trimStart cs)

/-- The characters that are not white space. -/
def squeeze (cs : List Char) : List Char :=
  cs.filter fun c => !isBlank c

/-- The text without the white space at either end. -/
def strip (s : String) : String :=
  String.ofList (trim s.toList)

end CodeFlow.Text
