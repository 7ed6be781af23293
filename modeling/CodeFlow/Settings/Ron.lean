import CodeFlow.Settings.Json5

/-!
# Documents in RON

Values with their structure: records in parentheses with a name in front if they have one, options,
lists, maps in braces, and texts with or without escapes.
-/

namespace CodeFlow.Settings.Ron

open CodeFlow.Text CodeFlow.Text.Scan CodeFlow.Settings.Json5

/-! ## Texts and names -/

/-- What stands behind a backslash. -/
def escape : Scan Char := do
  match ← char fun _ => true with
  | '\'' => pure '\''
  | '"' => pure '"'
  | '\\' => pure '\\'
  | 'n' => pure '\n'
  | 'r' => pure '\r'
  | 't' => pure '\t'
  | '0' => pure '\x00'
  | 'x' => charByNumber 2
  | 'u' => do
    symbol '\x7b'
    let ds ← many1 (isDigitIn 16)
    symbol '\x7d'
    match numberIn? 16 ds with
    | some n => if ds.length ≤ 6 ∧ n.isValidChar then pure (Char.ofNat n) else failure
    | none => failure
  | _ => failure

/-- A text with escapes. -/
def quotedText : Scan String := do
  symbol '"'
  let cs ← repeated ((char fun c => c != '"' && c != '\\') <|> (do symbol '\\'; escape))
  symbol '"'
  pure (String.ofList cs)

/-- The text up to a word, and the rest behind the word. -/
def upTo (mark : List Char) : List Char → Option (List Char × List Char)
  | [] => none
  | c :: cs =>
    match behind? mark (c :: cs) with
    | some rest => some ([], rest)
    | none => (upTo mark cs).map fun p => (c :: p.1, p.2)

/-- A text without escapes, between quotes with as many number signs on either side. -/
def rawText : Scan String := do
  symbol 'r'
  let signs ← many (· == '#')
  symbol '"'
  let cs ← (fun cs => upTo ('"' :: signs) cs : Scan (List Char))
  pure (String.ofList cs)

/-- A single character. -/
def character : Scan String := do
  symbol '\''
  let c ← (do symbol '\\'; escape) <|> char fun c => c != '\'' && c != '\\'
  symbol '\''
  pure (String.ofList [c])

/-- A name. -/
def name : Scan String := do
  let c ← char fun c => c.isAlpha || c == '_'
  let cs ← many fun c => c.isAlphanum || c == '_'
  pure (String.ofList (c :: cs))

/-! ## Numbers -/

/-- Digits of a base among which underscores may stand. -/
def digits (base : Nat) : Scan (List Char) := do
  let d ← char (isDigitIn base)
  let ds ← many fun c => isDigitIn base c || c == '_'
  pure (d :: ds.filter (· != '_'))

/-- A whole number in another base than ten. -/
def basedNumber (front : String) (base : Nat) : Scan Int := do
  word front
  match numberIn? base (← digits base) with
  | some n => pure (n : Int)
  | none => failure

/-- A number without a sign; a whole one is kept apart. -/
def magnitude : Scan (Int ⊕ Float) :=
  (do word "inf"; pure (.inr Decimal.infinity)) <|>
  (do word "NaN"; pure (.inr Decimal.notANumber)) <|>
  (do pure (.inl (← basedNumber "0x" 16 <|> basedNumber "0o" 8 <|> basedNumber "0b" 2))) <|>
  (do
    let cs ← many1 fun c => isDigitIn 10 c || ['_', '.', 'e', 'E', '+', '-'].contains c
    let cs := cs.filter (· != '_')
    match (if cs.all (isDigitIn 10) then numberIn? 10 cs else none), Decimal.float? cs with
    | some n, _ => pure (.inl (n : Int))
    | none, some x => pure (.inr x)
    | none, none => failure)

/-- A number; a whole one has 64 bits. -/
def number : Scan Json := do
  let sign ← optional (char fun c => c == '+' || c == '-')
  let negative := sign == some '-'
  match ← magnitude with
  | .inr x => pure (.float (Decimal.withSign negative x))
  | .inl n =>
    let n := if negative then -n else n
    if -9223372036854775808 ≤ n ∧ n ≤ 9223372036854775807 then pure (.int n) else failure

/-! ## Values -/

/-- A member of a record. -/
def field (value : Scan Json) : Scan (String × Json) := do
  let key ← name
  gap
  mark ':'
  let j ← value
  pure (key, j)

/-- A member of a map. -/
def mapEntry (value : Scan Json) : Scan (String × Json) := do
  let key ← quotedText <|> rawText
  gap
  mark ':'
  let j ← value
  pure (key, j)

/-- Members as an object, the last of each key. -/
def objectOf (members : List (String × Json)) : Json :=
  .obj (members.foldl (fun t m => put m.1 m.2 t) [])

/-- A value that holds no others, with the gap behind it. -/
def scalar : Scan Json := do
  let j ← (do word "true"; pure (.bool true)) <|> (do word "false"; pure (.bool false)) <|>
    (do word "None"; pure Json.null) <|> (do pure (.str (← rawText <|> quotedText <|> character))) <|>
    number
  gap
  pure j

/-- What stands in parentheses: nothing, one value behind `Some`, a record or a list. -/
def parenthesized (value : Scan Json) : Scan Json :=
  (do
    word "Some"
    gap
    mark '('
    let j ← value
    let _ ← optional (mark ',')
    mark ')'
    pure j) <|>
  (do
    let _ ← optional (do let _ ← name; gap)
    (do
      mark '('
      mark ')'
      pure Json.null) <|>
    (do pure (objectOf (← between '(' ')' (field value)))) <|>
    (do pure (.arr (← between '(' ')' value))))

/-- A value, in which others nest to at most a depth. -/
def value : (depth : Nat) → Scan Json
  | 0 => scalar
  | depth + 1 =>
    (do pure (.arr (← between '[' ']' (value depth)))) <|>
    (do pure (objectOf (← between '\x7b' '\x7d' (mapEntry (value depth))))) <|>
    parenthesized (value depth) <|>
    scalar

/-- How deep values may nest. -/
def depthLimit : Nat := 127

/-- The table that a document describes. -/
def parse? (text : String) : Option (List (String × Json)) :=
  match (do gap; value depthLimit : Scan Json).whole? text.toList with
  | some (.obj members) => some members
  | _ => none

end CodeFlow.Settings.Ron
