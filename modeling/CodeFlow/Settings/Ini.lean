import CodeFlow.Settings.Table
import CodeFlow.Text.Blank
import CodeFlow.Text.Digit
import CodeFlow.Text.Scan

/-!
# Sections of keys and texts

A document of the INI format is a sequence of comments, names of sections in brackets, and keys with
texts. Keys before the first section stand at the top. A section that comes up again replaces what
was said under its name before, and so does a key within a section.
-/

namespace CodeFlow.Settings.Ini

open CodeFlow.Text CodeFlow.Text.Scan

/-! ## Texts -/

/-- What stands behind a backslash; the end of a line stands for nothing. -/
def escape : Scan (List Char) := do
  match ← char fun _ => true with
  | '0' => pure ['\x00']
  | 'a' => pure ['\x07']
  | 'b' => pure ['\x08']
  | 't' => pure ['\t']
  | 'r' => pure ['\r']
  | 'n' => pure ['\n']
  | '\n' => pure []
  | 'x' =>
    match numberIn? 16 (← (List.range 4).mapM fun _ => char fun _ => true) with
    | some n => if n < 0xD800 ∨ 0xDFFF < n then pure [Char.ofNat n] else failure
    | none => failure
  | c => pure [c]

/-- A text up to one of some characters, which stays, or to the end. -/
def textUntil (stop : Char → Bool) : Scan String := do
  let pieces ← repeated ((do pure [← char fun c => c != '\\' && !stop c]) <|>
    (do symbol '\\'; escape))
  pure (strip (String.ofList pieces.flatten))

/-- A text between quotes. -/
def quotedText (quote : Char) : Scan String := do
  symbol quote
  let s ← textUntil (· == quote)
  symbol quote
  pure s

/-- The text behind a key. -/
def value : Scan String := do
  let _ ← many fun c => c != '\n' && c != '\r' && isBlank c
  quotedText '"' <|> quotedText '\'' <|> bare
where
  /-- A text without quotes goes up to the end of its line. -/
  bare : Scan String := do
    match ← peek? with
    | some '"' => failure
    | some '\'' => failure
    | _ => do
      let s ← textUntil fun c => c == '\n' || c == '\r'
      match ← peek? with
      | some '\\' => failure
      | _ => pure s

/-! ## Entries -/

/-- What stands in a document. -/
inductive Entry where
  | comment
  | sectionName (name : String)
  | pair (key text : String)

/-- A comment up to the end of its line. -/
def comment : Scan Entry := do
  let _ ← char fun c => c == ';' || c == '#'
  let _ ← many (· != '\n')
  pure .comment

/-- The name of a section. -/
def sectionName : Scan Entry := do
  symbol '['
  let name ← textUntil (· == ']')
  symbol ']'
  pure (.sectionName name)

/-- A key and its text. -/
def pair : Scan Entry := do
  let key ← textUntil fun c => c == '=' || c == ':'
  let _ ← char fun c => c == '=' || c == ':'
  if key = "" then failure
  else do
    let text ← value
    pure (.pair key text)

/-- An entry and the space behind it. -/
def entry : Scan Entry := do
  let e ←
    match ← peek? with
    | some ';' => comment
    | some '#' => comment
    | some '[' => sectionName
    | _ => pair
  let _ ← many isBlank
  pure e

/-! ## Documents -/

/-- A document up to an entry, and the name of the section that is open. -/
structure Draft where
  table : List (String × Json)
  current : Option String

/-- Changes a draft by an entry. -/
def Draft.follow (d : Draft) : Entry → Draft
  | .comment => d
  | .sectionName name => ⟨put name (.obj []) d.table, some name⟩
  | .pair key text =>
    match d.current with
    | none => { d with table := put key (.str text) d.table }
    | some name =>
      let members := membersOf ((d.table.lookup name).getD .null)
      { d with table := put name (.obj (put key (.str text) members)) d.table }

/-- The table that a document describes. -/
def parse? (text : String) : Option (List (String × Json)) :=
  ((do
    let _ ← many isBlank
    repeated entry : Scan (List Entry)).whole? text.toList).map fun entries =>
      (entries.foldl Draft.follow ⟨[], none⟩).table

end CodeFlow.Settings.Ini
