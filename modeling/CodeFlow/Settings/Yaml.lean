import CodeFlow.Decimal.Numeral
import CodeFlow.Settings.Table
import CodeFlow.Text.Scan
import CodeFlow.Text.Split

/-!
# Documents in YAML

Reads the part of YAML in which settings are written: one document of mappings and sequences by
indentation, lists and mappings in brackets within a line, and plain or quoted texts of one line.
Anchors, tags, texts of several lines and further documents are refused.
-/

namespace CodeFlow.Settings.Yaml

open CodeFlow.Text CodeFlow.Text.Scan

/-! ## Single values -/

/-- The value of a plain text. -/
def plainValue (cs : List Char) : Json :=
  let text := String.ofList cs
  let based (base : Nat) (digits : List Char) : Option Json :=
    if digits = [] then none
    else (numberIn? base digits).bind fun n =>
      if n < 9223372036854775808 then some (.int n) else none
  let special : Option Json :=
    match cs with
    | '0' :: 'x' :: digits => based 16 digits
    | '0' :: 'o' :: digits => based 8 digits
    | _ => none
  match special with
  | some j => j
  | none =>
    if text = "" ∨ text = "~" ∨ text = "null" then .null
    else if text = "true" then .bool true
    else if text = "false" then .bool false
    else
      match Decimal.signed? cs with
      | some n => .int n
      | none =>
        match (if cs.any (isDigitIn 10) then Decimal.float? cs else none) with
        | some x => .float x
        | none => .str text

/-- What stands behind a backslash. -/
def escape : Scan Char := do
  match ← char fun _ => true with
  | '0' => pure '\x00'
  | 'a' => pure '\x07'
  | 'b' => pure '\x08'
  | 't' => pure '\t'
  | '\t' => pure '\t'
  | 'n' => pure '\n'
  | 'v' => pure '\x0b'
  | 'f' => pure '\x0c'
  | 'r' => pure '\r'
  | 'e' => pure '\x1b'
  | ' ' => pure ' '
  | '"' => pure '"'
  | '/' => pure '/'
  | '\\' => pure '\\'
  | 'N' => pure '\u0085'
  | '_' => pure '\u00a0'
  | 'L' => pure '\u2028'
  | 'P' => pure '\u2029'
  | 'x' => charByNumber 2
  | 'u' => charByNumber 4
  | 'U' => charByNumber 8
  | _ => failure

/-- A text in double quotes. -/
def doubleQuoted : Scan String := do
  symbol '"'
  let cs ← repeated ((char fun c => c != '"' && c != '\\') <|> (do symbol '\\'; escape))
  symbol '"'
  pure (String.ofList cs)

/-- A text in single quotes, in which two of them stand for one. -/
def singleQuoted : Scan String := do
  symbol '\''
  let cs ← repeated ((char fun c => c != '\'') <|> (do word "''"; pure '\''))
  symbol '\''
  pure (String.ofList cs)

/-- A text in quotes. -/
def quotedText : Scan String := doubleQuoted <|> singleQuoted

/-- Space within a line. -/
def space : Scan Unit := do
  let _ ← many fun c => c == ' ' || c == '\t'

/-- What cannot begin a plain text. -/
def isIndicator (c : Char) : Bool :=
  [',', '[', ']', '\x7b', '\x7d', '#', '&', '*', '!', '|', '>', '\'', '"', '%', '@', '\x60'].contains c

/-- The end of a plain text in some characters: before a comment, or behind a colon that ends a key;
in brackets also at a separator. -/
def plainUntil (inBrackets : Bool) : List Char → List Char × List Char
  | [] => ([], [])
  | c :: cs =>
    let ends :=
      (c == ' ' && (match cs with | '#' :: _ => true | _ => false)) ||
      (c == ':' && (match cs with
        | [] => true
        | d :: _ => d == ' ' || d == '\t' || (inBrackets && [',', ']', '\x7d'].contains d))) ||
      (inBrackets && [',', '[', ']', '\x7b', '\x7d'].contains c)
    if ends then ([], c :: cs)
    else
      let (front, rest) := plainUntil inBrackets cs
      (c :: front, rest)

/-- A plain text; some characters cannot begin it, and a few only with more behind them. -/
def plainText (inBrackets : Bool) : Scan (List Char) := fun cs =>
  let mayBegin :=
    match cs with
    | [] => false
    | c :: rest =>
      !isIndicator c && !(['-', '?', ':'].contains c &&
        (match rest with | [] => true | d :: _ => d == ' ' || d == '\t'))
  if mayBegin then
    let (front, rest) := plainUntil inBrackets cs
    some ((front.reverse.dropWhile fun c => c == ' ' || c == '\t').reverse, rest)
  else none

/-- A comment, or nothing, up to the end of a line. -/
def lineEnd : Scan Unit := do
  space
  let _ ← optional (do symbol '#'; let _ ← many fun _ => true)
  atEnd

/-! ## Values in brackets -/

/-- A key and its value in brackets. -/
def bracketPair (value : Scan Json) : Scan (String × Json) := do
  let key ← quotedText <|> (do pure (String.ofList (← plainText true)))
  space
  symbol ':'
  space
  let j ← optional value
  pure (key, j.getD .null)

/-- Things between brackets with commas between them, and perhaps one more behind. -/
def bracketed {α : Type} (left right : Char) (item : Scan α) : Scan (List α) := do
  symbol left
  space
  let items ← optional (do
    let items ← separated item (do space; symbol ','; space)
    space
    let _ ← optional (symbol ',')
    pure items)
  space
  symbol right
  pure (items.getD [])

/-- A value in brackets, in quotes or plain, in which brackets nest to at most a depth. -/
def inlineValue : (depth : Nat) → (inBrackets : Bool) → Scan Json
  | 0, inBrackets =>
    (do pure (.str (← quotedText))) <|> (do pure (plainValue (← plainText inBrackets)))
  | depth + 1, inBrackets =>
    (do pure (.arr (← bracketed '[' ']' (inlineValue depth true)))) <|>
    (do
      let pairs ← bracketed '\x7b' '\x7d' (bracketPair (inlineValue depth true))
      pure (.obj (pairs.foldl (fun t p => put p.1 p.2 t) []))) <|>
    (do pure (.str (← quotedText))) <|>
    (do pure (plainValue (← plainText inBrackets)))

/-- How deep brackets may nest. -/
def depthLimit : Nat := 100

/-! ## Lines -/

/-- What stands in a line, and how far it is indented. -/
structure Line where
  indent : Nat
  content : List Char

/-- A line with something in it; nothing in an empty line or a mere comment. -/
def Line.ofText? (cs : List Char) : Option Line :=
  let content := cs.dropWhile (· == ' ')
  match content.dropWhile fun c => c == ' ' || c == '\t' with
  | [] => none
  | '#' :: _ => none
  | _ => some ⟨cs.length - content.length, content⟩

/-- The item of a sequence behind its dash, as a line of its own; nothing at all if it is missing. -/
def Line.item? (l : Line) : Option (Option Line) :=
  match l.content with
  | ['-'] => some none
  | '-' :: ' ' :: rest =>
    let content := rest.dropWhile (· == ' ')
    match content with
    | [] => some none
    | '#' :: _ => some none
    | _ => some (some ⟨l.indent + 2 + (rest.length - content.length), content⟩)
  | _ => none

/-- A key and what stands behind its colon. -/
def keyed : Scan (String × Option Json) := do
  let key ← quotedText <|> (do pure (String.ofList (← plainText false)))
  space
  symbol ':'
  let blank ← peek?
  if blank.isSome && blank != some ' ' && blank != some '\t' then failure
  else do
    space
    let j ← optional (inlineValue depthLimit false)
    lineEnd
    pure (key, j)

/-- The key of a line, and its value if it stands in the line. -/
def Line.keyed? (l : Line) : Option (String × Option Json) :=
  keyed.whole? l.content

/-- A line that is a value. -/
def Line.value? (l : Line) : Option Json :=
  (do
    let j ← inlineValue depthLimit false
    lineEnd
    pure j : Scan Json).whole? l.content

/-! ## Blocks -/

/-- What a block is read into, with the lines that are left. -/
abbrev Block (α : Type) := Option (α × List Line)

/-- The members of a mapping at an indentation. -/
def mappingBlock (node : (least : Nat) → List Line → Block Json) (indent : Nat) :
    (most : Nat) → List (String × Json) → List Line → Block (List (String × Json))
  | 0, members, lines => some (members, lines)
  | _ + 1, members, [] => some (members, [])
  | most + 1, members, l :: lines =>
    if l.indent ≠ indent then some (members, l :: lines)
    else
      match l.keyed? with
      | none => none
      | some (key, some j) => mappingBlock node indent most (put key j members) lines
      | some (key, none) =>
        -- a sequence may stand at the indentation of its key
        let least :=
          match lines with
          | next :: _ => if next.indent = indent ∧ next.item?.isSome then indent else indent + 1
          | [] => indent + 1
        match node least lines with
        | none => none
        | some (j, lines) => mappingBlock node indent most (put key j members) lines

/-- The items of a sequence at an indentation, behind others in reverse. -/
def sequenceBlock (node : (least : Nat) → List Line → Block Json) (indent : Nat) :
    (most : Nat) → List Json → List Line → Block (List Json)
  | 0, items, lines => some (items, lines)
  | _ + 1, items, [] => some (items, [])
  | most + 1, items, l :: lines =>
    if l.indent ≠ indent then some (items, l :: lines)
    else
      match l.item? with
      | none => some (items, l :: lines)
      | some first =>
        match node (indent + 1) (first.toList ++ lines) with
        | none => none
        | some (j, lines) => sequenceBlock node indent most (j :: items) lines

/-- A value that is indented at least so far; null if there is none. Blocks nest to at most a
depth. -/
def block : (depth : Nat) → (least : Nat) → List Line → Block Json
  | 0, _, _ => none
  | _ + 1, _, [] => some (.null, [])
  | depth + 1, least, l :: lines =>
    if l.indent < least then some (.null, l :: lines)
    else if l.item?.isSome then
      (sequenceBlock (block depth) l.indent (lines.length + 1) [] (l :: lines)).map fun p =>
        (.arr p.1.reverse, p.2)
    else if l.keyed?.isSome then
      (mappingBlock (block depth) l.indent (lines.length + 1) [] (l :: lines)).map fun p =>
        (.obj p.1, p.2)
    else l.value?.map fun j => (j, lines)

/-! ## Documents -/

/-- The lines of a text, each of which may end in a carriage return. -/
def linesOf (text : String) : List (List Char) :=
  (splitOn '\n' text.toList).map fun l => if l.getLast? = some '\r' then l.dropLast else l

/-- The lines of a document without the mark at its beginning. -/
def withoutMark : List Line → List Line
  | [] => []
  | l :: lines => if l.indent = 0 ∧ l.content = ['-', '-', '-'] then lines else l :: lines

/-- The table that a document describes; an empty document describes an empty one. -/
def parse? (text : String) : Option (List (String × Json)) :=
  match withoutMark ((linesOf text).filterMap Line.ofText?) with
  | [] => some []
  | lines =>
    match block (text.length + 1) 0 lines with
    | some (.obj members, []) => some members
    | _ => none

end CodeFlow.Settings.Yaml
