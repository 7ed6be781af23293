import CodeFlow.Text.Split
import CodeFlow.Url.Percent

/-!
# Parameters of a query

A query holds pairs of a key and a value, joined by `&` and `=`. Letters, digits and `*-._` stand
for themselves, a space is written `+`, and everything else is percent encoded. Reading accepts
every text: a piece without `=` is a key with an empty value, empty pieces are passed over, and
bytes that are no UTF-8 become U+FFFD.
-/

namespace CodeFlow.Url

open CodeFlow.Text

/-! ## Writing -/

/-- What a key or a value keeps. -/
def inParameter (c : Char) : Bool :=
  ('a' ≤ c && c ≤ 'z') || ('A' ≤ c && c ≤ 'Z') || ('0' ≤ c && c ≤ '9') ||
    c == '*' || c == '-' || c == '.' || c == '_'

/-- A character of a key or a value. -/
def writeParameterChar (c : Char) : List Char :=
  if c = ' ' then ['+'] else escapeChar inParameter c

/-- A key or a value. -/
def writeParameter (cs : List Char) : List Char :=
  cs.flatMap writeParameterChar

/-- A key and its value. -/
def writePair (p : String × String) : List Char :=
  writeParameter p.1.toList ++ '=' :: writeParameter p.2.toList

/-- Pairs put behind a query, of which nothing may be there. -/
def appendPairs (query : List Char) : List (String × String) → List Char
  | [] => query
  | p :: ps => appendPairs (if query = [] then writePair p else query ++ '&' :: writePair p) ps

/-! ## Reading -/

/-- What a key or a value stands for. -/
def readParameter (cs : List Char) : String :=
  String.ofList (Utf8.decodeLossy
    (percentDecode (Utf8.encode (cs.map fun c => if c = '+' then ' ' else c))))

/-- A piece: a key up to the first `=`, and a value. -/
def readPair (piece : List Char) : String × String :=
  (readParameter (piece.takeWhile (· ≠ '=')), readParameter ((piece.dropWhile (· ≠ '=')).drop 1))

/-- The pairs of a query, in their order. -/
def pairsOf (query : List Char) : List (String × String) :=
  ((splitOn '&' query).filter (· ≠ [])).map readPair

end CodeFlow.Url
