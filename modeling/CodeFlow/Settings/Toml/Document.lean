import CodeFlow.Settings.Table
import CodeFlow.Settings.Toml.Scalar

/-!
# Documents in TOML

A document is a sequence of lines. A line opens a table or an item of a list of tables, or assigns a
value to a key of the table that is open. A table can be opened once, a key be assigned once, and a
table that was made by a key of several parts can only grow by such keys.
-/

namespace CodeFlow.Settings.Toml

open CodeFlow.Text CodeFlow.Text.Scan

/-! ## Tables while they grow -/

/-- How a table came about. -/
inductive Origin where
  /-- It was opened. -/
  | opened
  /-- It is on the way to a table that was opened. -/
  | passed
  /-- It is on the way to a key of several parts. -/
  | dotted
deriving DecidableEq

/-- What a key holds while a document is read. -/
inductive Node where
  | value (j : Json)
  | table (origin : Origin) (members : List (String × Node))
  /-- A list of tables, of which only the last can grow. -/
  | tables (before : List Json) (last : List (String × Node))

mutual

/-- What a key holds in the end. -/
def Node.toJson : Node → Json
  | .value j => j
  | .table _ members => .obj (membersToJson members)
  | .tables before last => .arr (before ++ [.obj (membersToJson last)])

/-- What the keys of a table hold in the end. -/
def membersToJson : List (String × Node) → List (String × Json)
  | [] => []
  | (k, n) :: rest => (k, n.toJson) :: membersToJson rest

end

/-- A change of a table, or nothing if it is not allowed. -/
abbrev Change := Origin → List (String × Node) → Option (Origin × List (String × Node))

/-- A change of the table at the end of some keys. Tables that are missing are made; a table may be
entered or not by its origin. -/
def descend (made : Origin) (mayEnter : Origin → Bool) (f : Change) : List String → Change
  | [] => f
  | key :: keys => fun origin members =>
    match members.lookup key with
    | none => do
      let (o, inner) ← descend made mayEnter f keys made []
      pure (origin, put key (.table o inner) members)
    | some (.value _) => none
    | some (.tables before last) => do
      let (_, inner) ← descend made mayEnter f keys .opened last
      pure (origin, put key (.tables before inner) members)
    | some (.table o inner) =>
      if mayEnter o then do
        let (o, inner) ← descend made mayEnter f keys o inner
        pure (origin, put key (.table o inner) members)
      else none

/-- Opens a table. -/
def openTable (key : String) : Change := fun origin members =>
  match members.lookup key with
  | none => some (origin, put key (.table .opened []) members)
  | some (.table .passed inner) => some (origin, put key (.table .opened inner) members)
  | some _ => none

/-- Opens a further item of a list of tables. -/
def openItem (key : String) : Change := fun origin members =>
  match members.lookup key with
  | none => some (origin, put key (.tables [] []) members)
  | some (.tables before last) =>
    some (origin, put key (.tables (before ++ [.obj (membersToJson last)]) []) members)
  | some _ => none

/-- Assigns a value to a key that has none; `dotted` if the key is the last of several parts. -/
def assignLast (dotted : Bool) (key : String) (j : Json) : Change := fun origin members =>
  if (origin == .dotted) == dotted then
    match members.lookup key with
    | none => some (origin, put key (.value j) members)
    | some _ => none
  else none

/-- Assigns a value to the last of some keys in a table. -/
def assign (path : List String) (key : String) (j : Json) : Change :=
  descend .dotted (· != .opened) (assignLast (path != []) key j) path

/-! ## Keys and values -/

/-- A character of a key without quotes. -/
def isBare (c : Char) : Bool :=
  ('a' ≤ c && c ≤ 'z') || ('A' ≤ c && c ≤ 'Z') || ('0' ≤ c && c ≤ '9') || c == '_' || c == '-'

/-- One part of a key. -/
def keyPart : Scan String := do
  let cs ← many1 isBare <|> basicString <|> literalString
  pure (String.ofList cs)

/-- How deep values and keys may go. -/
def depthLimit : Nat := 79

/-- A key: the parts before the last, and the last. -/
def key : Scan (List String × String) := do
  let parts ← separated keyPart (do space; symbol '.'; space)
  match parts.getLast? with
  | some last => if parts.length ≤ depthLimit then pure (parts.dropLast, last) else failure
  | none => failure

/-- A key and its value. -/
def pair (value : Scan Json) : Scan (List String × String × Json) := do
  let (path, last) ← key
  space
  symbol '='
  space
  let j ← value
  pure (path, last, j)

/-- A list, which may go over several lines and end in a comma. -/
def list (value : Scan Json) : Scan Json := do
  symbol '['
  gap
  let items ← optional (do
    let items ← separated value (do gap; symbol ','; gap)
    gap
    let _ ← optional (symbol ',')
    pure items)
  gap
  symbol ']'
  pure (.arr (items.getD []))

/-- A table within a line. -/
def inlineTable (value : Scan Json) : Scan Json := do
  symbol '\x7b'
  space
  let pairs ← optional (separated (pair value) (do space; symbol ','; space))
  space
  symbol '\x7d'
  let grown := (pairs.getD []).foldlM (fun (t : Origin × List (String × Node)) p =>
    assign p.1 p.2.1 p.2.2 t.1 t.2) (.opened, [])
  match grown with
  | some (_, members) => pure (.obj (membersToJson members))
  | none => failure

/-- A value, in which lists and tables nest to at most a depth. -/
def value : (depth : Nat) → Scan Json
  | 0 => scalar
  | depth + 1 => list (value depth) <|> inlineTable (value depth) <|> scalar

/-! ## Lines -/

/-- What a line does. -/
inductive Line where
  | nothing
  | openTable (path : List String) (key : String)
  | openItem (path : List String) (key : String)
  | assign (path : List String) (key : String) (j : Json)

/-- The key in brackets. -/
def bracketed (left right : String) : Scan (List String × String) := do
  word left
  space
  let k ← key
  space
  word right
  pure k

/-- What a line does, before space and comments at its end. -/
def statement : Scan Line :=
  (do
    let (path, last) ← bracketed "[[" "]]"
    pure (.openItem path last)) <|>
  (do
    let (path, last) ← bracketed "[" "]"
    pure (.openTable path last)) <|>
  (do
    let (path, last, j) ← pair (value depthLimit)
    pure (.assign path last j)) <|>
  pure .nothing

/-- A line. -/
def line : Scan Line := do
  space
  let s ← statement
  space
  let _ ← optional comment
  pure s

/-! ## Documents -/

/-- A document up to a line, and the keys of the table that is open. -/
structure Draft where
  members : List (String × Node)
  current : List String

/-- Every table may be entered. -/
def everywhere (_ : Origin) : Bool := true

/-- Changes a draft by a line. -/
def Draft.follow (d : Draft) : Line → Option Draft
  | .nothing => some d
  | .openTable path key =>
    (descend .passed everywhere (openTable key) path .opened d.members).map fun t =>
      ⟨t.2, path ++ [key]⟩
  | .openItem path key =>
    (descend .passed everywhere (openItem key) path .opened d.members).map fun t =>
      ⟨t.2, path ++ [key]⟩
  | .assign path key j =>
    (descend .passed everywhere (assign path key j) d.current .opened d.members).map fun t =>
      ⟨t.2, d.current⟩

/-- The table that a document describes. -/
def parse? (text : String) : Option (List (String × Json)) := do
  let lines ← (separated line newline).whole? text.toList
  let d ← lines.foldlM Draft.follow ⟨[], []⟩
  pure (membersToJson d.members)

end CodeFlow.Settings.Toml
