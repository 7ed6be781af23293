import CodeFlow.Settings.Table
import CodeFlow.Text.Digit
import CodeFlow.Text.Scan

/-!
# Layers of settings

Settings come from several sources, of which the later win. Tables are merged leaf by leaf; anything
else takes the place of what was there. Keys are compared in small letters, and a key at the top of
a source may lead to members and items further down.
-/

namespace CodeFlow.Settings

open CodeFlow.Text CodeFlow.Text.Scan

/-! ## Keys -/

/-- A character as a small letter. Of the letters beyond ASCII, only the sign for degrees Kelvin has
a small form that occurs in the key of a setting. -/
def smallChar (c : Char) : Char :=
  if c = '\u212a' then 'k' else c.toLower

/-- A text in small letters. -/
def small (s : String) : String :=
  String.ofList (s.toList.map smallChar)

/-! ## Merging -/

mutual

/-- Puts a value under a key of a table, or merges it into the table that is there. -/
def merge (key : String) : Json → List (String × Json) → List (String × Json)
  | .obj members, table =>
    put (small key) (.obj (mergeAll members (membersOf ((table.lookup (small key)).getD .null))))
      table
  | .null, table => put (small key) .null table
  | .bool b, table => put (small key) (.bool b) table
  | .int n, table => put (small key) (.int n) table
  | .float x, table => put (small key) (.float x) table
  | .str s, table => put (small key) (.str s) table
  | .arr items, table => put (small key) (.arr items) table

/-- Puts some members into a table, one after another. -/
def mergeAll : List (String × Json) → List (String × Json) → List (String × Json)
  | [], table => table
  | (key, j) :: rest, table => mergeAll rest (merge key j table)

end

/-! ## Paths -/

/-- A step down from a value. -/
inductive Turn where
  | member (key : String)
  /-- An item by its place; a negative place counts from the end. -/
  | item (index : Int)
deriving DecidableEq, Repr

/-- Where a value is put: at the end of some steps below a key. -/
structure Path where
  key : String
  turns : List Turn
deriving DecidableEq, Repr

namespace Path

/-- A character of a key in a path. -/
def isKeyChar (c : Char) : Bool :=
  ('a' ≤ c && c ≤ 'z') || ('A' ≤ c && c ≤ 'Z') || ('0' ≤ c && c ≤ '9') || c == ' ' || c == '_' ||
    c == '-'

/-- A key. -/
def scanKey : Scan String := do
  pure (String.ofList (← many1 isKeyChar))

/-- Space around the number of an item. -/
def padding : Scan Unit := do
  let _ ← many fun c => c == ' ' || c == '\t' || c == '\r' || c == '\n'

/-- A key behind a point, or the number of an item in brackets. -/
def scanTurn : Scan Turn :=
  (do
    symbol '.'
    pure (.member (← scanKey))) <|>
  (do
    symbol '['
    padding
    let negative ← optional (symbol '-')
    let digits ← many1 (isDigitIn 10)
    padding
    symbol ']'
    match numberIn? 10 digits with
    | some n =>
      let index : Int := if negative.isSome then -n else n
      if n < 9223372036854775808 then pure (.item index) else failure
    | none => failure)

/-- The path that a text names. -/
def parse? (text : String) : Option Path :=
  (do
    let key ← scanKey
    let turns ← repeated scanTurn
    pure (⟨key, turns⟩ : Path) : Scan Path).whole? text.toList

/-- The path of a key of a source: a key that names no path stands for itself. -/
def ofKey (key : String) : Path :=
  (parse? key).getD ⟨key, []⟩

end Path

/-- The place in a list of some length. -/
def placeOf (index : Int) (length : Nat) : Nat :=
  if 0 ≤ index then index.toNat else length - index.natAbs

/-- Puts an item into a list, which is filled up with nulls as far as needed. -/
def putItem (place : Nat) (j : Json) (items : List Json) : List Json :=
  (items ++ List.replicate (place + 1 - items.length) Json.null).set place j

/-- Puts a value at the end of some steps below another. What is no table or no list where one is
needed gives way. -/
def putAt (j : Json) : Turn → List Turn → Json → Json
  | .member key, [], at_ => .obj (merge key j (membersOf at_))
  | .member key, t :: ts, at_ =>
    let members := membersOf at_
    .obj (put key (putAt j t ts ((members.lookup key).getD .null)) members)
  | .item index, [], at_ =>
    let items := itemsOf at_
    .arr (putItem (placeOf index items.length) j items)
  | .item index, t :: ts, at_ =>
    let items := itemsOf at_
    let place := placeOf index items.length
    .arr (putItem place (putAt j t ts ((items[place]?).getD .null)) items)

/-- Puts a value at a path of a table. -/
def Path.put (p : Path) (j : Json) (table : List (String × Json)) : List (String × Json) :=
  match p.turns with
  | [] => merge p.key j table
  | t :: ts => Settings.put p.key (putAt j t ts ((table.lookup p.key).getD .null)) table

/-! ## Sources -/

/-- What a source says: values for keys that may name paths. -/
abbrev Source := List (String × Json)

/-- Lays a source over a table. -/
def overlay (table : List (String × Json)) (source : Source) : List (String × Json) :=
  source.foldl (fun t m => (Path.ofKey m.1).put m.2 t) table

/-- The table that sources make together, of which the later win. -/
def layered (sources : List Source) : List (String × Json) :=
  sources.foldl overlay []

end CodeFlow.Settings
