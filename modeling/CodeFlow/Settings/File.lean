import CodeFlow.Json.Document
import CodeFlow.Settings.Ini
import CodeFlow.Settings.Json5
import CodeFlow.Settings.Layers
import CodeFlow.Settings.Ron
import CodeFlow.Settings.Toml.Document
import CodeFlow.Settings.Yaml

/-!
# Files of settings

The format of a file is told by the end of its name.
-/

namespace CodeFlow.Settings

/-! ## Formats -/

/-- A format of settings. -/
inductive Format where
  | toml
  | json
  | yaml
  | ini
  | json5
  | ron
deriving DecidableEq, Repr

/-- What the name of a file ends in behind its last point. -/
def extension? (path : String) : Option String :=
  let name := (path.toList.reverse.takeWhile (· ≠ '/')).reverse
  let back := name.reverse
  let ending := back.takeWhile (· ≠ '.')
  -- a point at the very beginning belongs to the name
  if ending.length + 1 < name.length then some (String.ofList ending.reverse) else none

/-- The format that a name tells. -/
def Format.ofPath? (path : String) : Option Format :=
  match extension? path with
  | some "toml" => some .toml
  | some "json" => some .json
  | some "yaml" => some .yaml
  | some "yml" => some .yaml
  | some "ini" => some .ini
  | some "json5" => some .json5
  | some "ron" => some .ron
  | _ => none

/-! ## Numbers of JSON -/

mutual

/-- A value of which whole numbers beyond 64 bits are taken for floating-point numbers. -/
def narrow : Json → Json
  | .int n =>
    if -9223372036854775808 ≤ n ∧ n < 9223372036854775808 then .int n
    else .float (Decimal.withSign (n < 0) (Decimal.nearest n.natAbs 0))
  | .arr items => .arr (narrowItems items)
  | .obj members => .obj (narrowMembers members)
  | .null => .null
  | .bool b => .bool b
  | .float x => .float x
  | .str s => .str s

/-- Items of which each is narrowed. -/
def narrowItems : List Json → List Json
  | [] => []
  | j :: rest => narrow j :: narrowItems rest

/-- Members, the last of each key, of which each is narrowed. -/
def narrowMembers : List (String × Json) → List (String × Json)
  | [] => []
  | (key, j) :: rest =>
    let later := narrowMembers rest
    if (later.lookup key).isSome then later else (key, narrow j) :: later

end

/-! ## Reading -/

/-- The table that a text describes in a format. -/
def Format.parse? : Format → String → Option Source
  | .toml, text => Toml.parse? text
  | .json, text =>
    match Json.parse? text with
    | some (.obj members) => some (narrowMembers members)
    | _ => none
  | .yaml, text => Yaml.parse? text
  | .ini, text => Ini.parse? text
  | .json5, text => Json5.parse? text
  | .ron, text => Ron.parse? text

/-- A text without the mark of its byte order. -/
def withoutOrderMark (text : String) : String :=
  match text.toList with
  | '\ufeff' :: cs => String.ofList cs
  | _ => text

/-- What is found at a path. -/
inductive Entry where
  | file (text : String)
  /-- A directory, or a file that holds no text. -/
  | unreadable

/-- What the file at a path says. -/
def Entry.source? (path : String) : Entry → Option Source
  | .unreadable => none
  | .file text => (Format.ofPath? path).bind fun f => f.parse? (withoutOrderMark text)

end CodeFlow.Settings
