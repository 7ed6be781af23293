import CodeFlow.Http.Message
import CodeFlow.Json.Reader
import CodeFlow.Text.Blank

/-!
# Cookies

The name and the value in front of what a server asks to keep, the list of those that an answer
sets, look-ups in it, and the line in which some of them are sent back.
-/

namespace CodeFlow

open CodeFlow.Text

/-! ## One cookie -/

/-- A name and a value, and the whole text from which they were read. -/
structure Cookie where
  name : String
  value : String
  raw : String
deriving DecidableEq, Repr

namespace Cookie

/-- Name and value in a list of characters: what stands before the first semicolon, cut at the
first equals sign, without white space around either. There must be an equals sign and a name. -/
def split? (cs : List Char) : Option (List Char × List Char) :=
  -- what follows the first semicolon only says how the cookie is to be kept
  let pair := trim (cs.takeWhile (· ≠ ';'))
  match pair.dropWhile (· ≠ '=') with
  | [] => none
  | _ :: value =>
    let name := trim (pair.takeWhile (· ≠ '='))
    if name = [] then none else some (name, trim value)

/-- The cookie that a text asks to keep. -/
def parse? (text : String) : Option Cookie :=
  (split? text.toList).map fun p => ⟨String.ofList p.1, String.ofList p.2, text⟩

/-- The name and the value, as they are sent. -/
def write (c : Cookie) : String :=
  c.name ++ "=" ++ c.value

/-- The line in which cookies are sent. -/
def line (cookies : List Cookie) : String :=
  String.intercalate "; " (cookies.map write)

/-! ## The cookies of an answer -/

/-- The cookies that headers set, in their order. Headers that are not text or do not name a
cookie are passed over. -/
def capture (headers : List Http.Header) : List Cookie :=
  ((headers.filter (Http.Header.isNamed "set-cookie")).filterMap Http.Header.text?).filterMap parse?

/-- The first cookie with a name. -/
def find? (cookies : List Cookie) (name : String) : Option Cookie :=
  cookies.find? (·.name = name)

/-- The first cookie whose name begins with a text. -/
def findPrefix? (cookies : List Cookie) (front : String) : Option Cookie :=
  cookies.find? fun c => front.toList.isPrefixOf c.name.toList

/-- The first cookie with a name and how many come before it. -/
def position? (cookies : List Cookie) (name : String) : Option (Nat × Cookie) :=
  (cookies.zipIdx.find? (·.1.name = name)).map fun p => (p.2, p.1)

/-! ## Documents -/

/-- Cookies in documents. -/
def form : Json.Form Cookie where
  shape := .record "CookiePair" (.required "name" .text (.required "value" .text
    (.required "raw" .text .nil)))
  ofVal := fun (name, value, raw, ()) => ⟨name, value, raw⟩
  toVal := fun c => (c.name, c.value, c.raw, ())
  ofVal_toVal := fun _ => rfl

end Cookie

end CodeFlow
