import CodeFlow.Decimal.Numeral
import CodeFlow.Settings.Table
import CodeFlow.Text.Blank
import CodeFlow.Text.Scan

/-!
# Documents in JSON5

JSON with comments, names without quotes, texts in single quotes, commas at the end of lists and
more ways to write numbers.
-/

namespace CodeFlow.Settings.Json5

open CodeFlow.Text CodeFlow.Text.Scan

/-! ## Gaps -/

/-- The end of a line. -/
def isLineEnd (c : Char) : Bool :=
  c == '\n' || c == '\r' || c == '\u2028' || c == '\u2029'

/-- The rest behind the end of a comment that may go over several lines. -/
def commentEnd : List Char → Option (List Char)
  | [] => none
  | '*' :: '/' :: cs => some cs
  | _ :: cs => commentEnd cs

/-- A comment. -/
def comment : Scan Unit :=
  (do
    word "//"
    let _ ← many fun c => !isLineEnd c) <|>
  (do
    word "/*"
    fun cs => (commentEnd cs).map ((), ·))

/-- Passes over space and comments. -/
def gap : Scan Unit := do
  let _ ← repeated ((do let _ ← many1 fun c => isBlank c || c == '\ufeff') <|> comment)

/-- A sign with the gap behind it. -/
def mark (c : Char) : Scan Unit := do
  symbol c
  gap

/-! ## Texts -/

/-- What stands behind a backslash; the end of a line stands for nothing. -/
def escape : Scan (List Char) :=
  (do word "\r\n"; pure []) <|>
  (do
    match ← char fun _ => true with
    | 'b' => pure ['\x08']
    | 'f' => pure ['\x0c']
    | 'n' => pure ['\n']
    | 'r' => pure ['\r']
    | 't' => pure ['\t']
    | 'v' => pure ['\x0b']
    | '0' => pure ['\x00']
    | 'x' => do pure [← charByNumber 2]
    | 'u' => do pure [← charByNumber 4]
    | c => if isLineEnd c then pure [] else if isDigitIn 10 c then failure else pure [c])

/-- A text in quotes of one kind. -/
def quotedBy (quote : Char) : Scan String := do
  symbol quote
  let pieces ← repeated
    ((do pure [← char fun c => c != quote && c != '\\' && c != '\n' && c != '\r']) <|>
      (do symbol '\\'; escape))
  symbol quote
  pure (String.ofList pieces.flatten)

/-- A text in quotes. -/
def quotedText : Scan String := quotedBy '"' <|> quotedBy '\''

/-- A character of a name without quotes; it does not begin with a digit. -/
def inName (first : Bool) (c : Char) : Bool :=
  c.isAlpha || c == '$' || c == '_' || (127 < c.toNat && !isBlank c) || (!first && c.isDigit)

/-- A name without quotes. -/
def bareName : Scan String := do
  let c ← char (inName true)
  let cs ← many (inName false)
  pure (String.ofList (c :: cs))

/-! ## Numbers -/

/-- A whole number in base sixteen. -/
def basedNumber : Scan Nat := do
  word "0x" <|> word "0X"
  match numberIn? 16 (← many1 (isDigitIn 16)) with
  | some n => pure n
  | none => failure

/-- Decimal digits that do not begin with a superfluous zero. -/
def wholeDigits : Scan (List Char) :=
  (do symbol '0'; pure ['0']) <|> many1 (isDigitIn 10)

/-- Decimal digits with a point and an exponent, as they are written. -/
def decimalText : Scan (List Char) := do
  let whole ← optional wholeDigits
  let places ← optional (do
    symbol '.'
    let ds ← many (isDigitIn 10)
    pure ('.' :: ds))
  let e ← optional (do
    let e ← char fun c => c == 'e' || c == 'E'
    let sign ← optional (char fun c => c == '+' || c == '-')
    let ds ← many1 (isDigitIn 10)
    pure (e :: sign.toList ++ ds))
  if whole.isNone && (places.getD []).length < 2 then failure
  else pure (whole.getD [] ++ places.getD [] ++ e.getD [])

/-- A number without a sign; a whole one is kept apart. -/
def magnitude : Scan (Int ⊕ Float) :=
  (do word "Infinity"; pure (.inr Decimal.infinity)) <|>
  (do word "NaN"; pure (.inr Decimal.notANumber)) <|>
  (do
    let n ← basedNumber
    pure (.inl (n : Int))) <|>
  (do
    let cs ← decimalText
    match (if cs.all (isDigitIn 10) then numberIn? 10 cs else none), Decimal.float? cs with
    | some n, _ => pure (.inl (n : Int))
    | none, some x => pure (.inr x)
    | none, none => failure)

/-- A number; a whole one has 64 bits. -/
def number : Scan Json := do
  let sign ← optional (char fun c => c == '+' || c == '-')
  let negative := sign == some '-'
  match ← magnitude with
  | .inr x => pure (.float (Decimal.withSign negative x))
  | .inl n =>
    let n := if negative then -n else n
    if -9223372036854775808 ≤ n ∧ n ≤ 9223372036854775807 then pure (.int n) else failure

/-! ## Values -/

/-- Things between two signs with commas between them, and perhaps one more behind. -/
def between {α : Type} (left right : Char) (item : Scan α) : Scan (List α) := do
  mark left
  let items ← optional (do
    let items ← separated item (mark ',')
    let _ ← optional (mark ',')
    pure items)
  mark right
  pure (items.getD [])

/-- A member of an object. -/
def pair (value : Scan Json) : Scan (String × Json) := do
  let key ← quotedText <|> bareName
  gap
  mark ':'
  let j ← value
  pure (key, j)

/-- A value that holds no others, with the gap behind it. -/
def scalar : Scan Json := do
  let j ← (do word "null"; pure Json.null) <|> (do word "true"; pure (.bool true)) <|>
    (do word "false"; pure (.bool false)) <|> (do pure (.str (← quotedText))) <|> number
  gap
  pure j

/-- A value, in which others nest to at most a depth. -/
def value : (depth : Nat) → Scan Json
  | 0 => scalar
  | depth + 1 =>
    (do pure (.arr (← between '[' ']' (value depth)))) <|>
    (do
      let members ← between '\x7b' '\x7d' (pair (value depth))
      pure (.obj (members.foldl (fun t m => put m.1 m.2 t) []))) <|>
    scalar

/-- The table that a document describes. -/
def parse? (text : String) : Option (List (String × Json)) :=
  match (do gap; value text.length : Scan Json).whole? text.toList with
  | some (.obj members) => some members
  | _ => none

end CodeFlow.Settings.Json5
