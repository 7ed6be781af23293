import CodeFlow.Decimal.Numeral
import CodeFlow.Json.Basic
import CodeFlow.Text.Scan
import CodeFlow.Time.Calendar

/-!
# Single values of TOML

Strings of four kinds, whole numbers in four bases, floating-point numbers, and points in time,
which are kept as texts.
-/

namespace CodeFlow.Settings.Toml

open CodeFlow.Text CodeFlow.Text.Scan

/-! ## Space and lines -/

/-- Space within a line. -/
def isSpace (c : Char) : Bool := c == ' ' || c == '\t'

/-- Passes over space within a line. -/
def space : Scan Unit := do
  let _ ← many isSpace

/-- The end of a line. -/
def newline : Scan Unit := symbol '\n' <|> word "\r\n"

/-- A character that may stand in a comment or a string: no control character but the tab. -/
def isPlain (c : Char) : Bool := c == '\t' || (' ' ≤ c && c != '\x7f')

/-- A comment up to the end of its line. -/
def comment : Scan Unit := do
  symbol '#'
  let _ ← many isPlain

/-- Passes over space, lines and comments. -/
def gap : Scan Unit := do
  let _ ← repeated ((do let _ ← many1 isSpace) <|> newline <|> comment)

/-! ## Strings -/

/-- What stands behind a backslash. -/
def escape : Scan Char := do
  match ← char fun _ => true with
  | 'b' => pure '\x08'
  | 't' => pure '\t'
  | 'n' => pure '\n'
  | 'f' => pure '\x0c'
  | 'r' => pure '\r'
  | '"' => pure '"'
  | '\\' => pure '\\'
  | 'u' => charByNumber 4
  | 'U' => charByNumber 8
  | _ => failure

/-- A character of a string with escapes. -/
def basicChar : Scan Char :=
  char (fun c => isPlain c && c != '"' && c != '\\') <|> (do symbol '\\'; escape)

/-- A string with escapes. -/
def basicString : Scan (List Char) := do
  symbol '"'
  let cs ← repeated basicChar
  symbol '"'
  pure cs

/-- A string without escapes. -/
def literalString : Scan (List Char) := do
  symbol '\''
  let cs ← many fun c => isPlain c && c != '\''
  symbol '\''
  pure cs

/-- One or two quotes within a string of several lines. -/
def innerQuotes (quote : Char) : Scan (List Char) := fun cs =>
  let run := cs.takeWhile (· == quote)
  if run.length = 1 ∨ run.length = 2 then some (run, cs.drop run.length) else none

/-- The three quotes that end a string of several lines, with up to two that belong to it. -/
def closingQuotes (quote : Char) : Scan (List Char) := fun cs =>
  let run := cs.takeWhile (· == quote)
  if 3 ≤ run.length ∧ run.length ≤ 5 then some (run.drop 3, cs.drop run.length) else none

/-- An end of a line that does not count, with all space behind it. -/
def joinedLines : Scan (List Char) := do
  symbol '\\'
  space
  newline
  let _ ← repeated ((do let _ ← many1 isSpace) <|> newline)
  pure []

/-- The end of a line in a string. -/
def innerLine : Scan (List Char) := do
  newline
  pure ['\n']

/-- A string of several lines, with or without escapes. -/
def longString (quote : Char) (piece : Scan (List Char)) : Scan (List Char) := do
  word (String.ofList [quote, quote, quote])
  let _ ← optional newline
  let pieces ← repeated (piece <|> innerLine <|> innerQuotes quote)
  let last ← closingQuotes quote
  pure (pieces.flatten ++ last)

/-- A string of several lines with escapes. -/
def longBasicString : Scan (List Char) :=
  longString '"' (joinedLines <|> (do pure [← basicChar]))

/-- A string of several lines without escapes. -/
def longLiteralString : Scan (List Char) :=
  longString '\'' (many1 fun c => isPlain c && c != '\'')

/-- A string of any kind. -/
def anyString : Scan Json := do
  let cs ← longBasicString <|> longLiteralString <|> basicString <|> literalString
  pure (.str (String.ofList cs))

/-! ## Numbers -/

/-- Digits of a base; between two of them one underscore may stand. -/
def digits (base : Nat) : Scan (List Char) := do
  let digit := char (isDigitIn base)
  let d ← digit
  let ds ← repeated (digit <|> (do symbol '_'; digit))
  pure (d :: ds)

/-- A sign; whether it is a minus sign. -/
def sign : Scan Bool :=
  (do symbol '-'; pure true) <|> (do symbol '+'; pure false) <|> pure false

/-- Decimal digits that do not begin with a superfluous zero. -/
def wholeDigits : Scan (List Char) := do
  match ← peek? with
  | some '0' => do
    symbol '0'
    pure ['0']
  | _ => digits 10

/-- A number within 64 bits. -/
def bounded (n : Int) : Scan Json :=
  if -9223372036854775808 ≤ n ∧ n ≤ 9223372036854775807 then pure (.int n) else failure

/-- A whole number in another base than ten. -/
def basedNumber (mark : String) (base : Nat) : Scan Json := do
  word mark
  match numberIn? base (← digits base) with
  | some n => bounded n
  | none => failure

/-- A whole number in base ten. -/
def wholeNumber : Scan Json := do
  let negative ← sign
  match numberIn? 10 (← wholeDigits) with
  | some n => bounded (if negative then -n else n)
  | none => failure

/-- The exponent of a number. -/
def exponent : Scan Int := do
  let _ ← char fun c => c == 'e' || c == 'E'
  let negative ← sign
  match numberIn? 10 (← digits 10) with
  | some n => pure (if negative then -n else n)
  | none => failure

/-- A name of a number that is no ordinary one. -/
def namedFloat : Scan Json := do
  let negative ← sign
  let x ← (do word "inf"; pure Decimal.infinity) <|> (do word "nan"; pure Decimal.notANumber)
  pure (.float (Decimal.withSign negative x))

/-- A number with a point or an exponent; one that is too great is none. -/
def floatNumber : Scan Json := do
  let negative ← sign
  let whole ← wholeDigits
  let places ← optional (do symbol '.'; digits 10)
  let e ← match places with
    | some _ => optional exponent
    | none => do pure (some (← exponent))
  let places := places.getD []
  match numberIn? 10 (whole ++ places) with
  | none => failure
  | some n =>
    let x := Decimal.nearest n (e.getD 0 - places.length)
    if x.isInf && !negative then failure else pure (.float (Decimal.withSign negative x))

/-! ## Points in time -/

/-- A number of a certain count of digits within bounds, as it is written. -/
def field (count least greatest : Nat) : Scan (List Char × Nat) := do
  let ds ← (List.range count).mapM fun _ => char (isDigitIn 10)
  match numberIn? 10 ds with
  | some n => if least ≤ n ∧ n ≤ greatest then pure (ds, n) else failure
  | none => failure

/-- A day. -/
def day : Scan (List Char) := do
  let (ys, y) ← field 4 0 9999
  symbol '-'
  let (ms, m) ← field 2 1 12
  symbol '-'
  let (ds, d) ← field 2 1 31
  if d ≤ Time.daysInMonth y m then pure (ys ++ '-' :: ms ++ '-' :: ds) else failure

/-- A fraction of a second, of which nine digits count and zeros at the end do not. -/
def fraction : Scan (List Char) := do
  symbol '.'
  let ds ← many1 (isDigitIn 10)
  let ds := ((ds.take 9).reverse.dropWhile (· == '0')).reverse
  pure (if ds = [] then [] else '.' :: ds)

/-- A time of day. -/
def timeOfDay : Scan (List Char) := do
  let (hs, _) ← field 2 0 23
  symbol ':'
  let (ms, _) ← field 2 0 59
  symbol ':'
  let (ss, _) ← field 2 0 60
  let fs ← optional fraction
  pure (hs ++ ':' :: ms ++ ':' :: ss ++ fs.getD [])

/-- How far a time is from the universal one. -/
def offset : Scan (List Char) :=
  (do
    let _ ← char fun c => c == 'Z' || c == 'z'
    pure ['Z']) <|>
  (do
    let c ← char fun c => c == '+' || c == '-'
    let (hs, _) ← field 2 0 23
    symbol ':'
    let (ms, _) ← field 2 0 59
    pure (c :: hs ++ ':' :: ms))

/-- A time behind a day. -/
def timeBehindDay : Scan (List Char) := do
  let _ ← char fun c => c == 'T' || c == 't' || c == ' '
  let t ← timeOfDay
  let o ← optional offset
  pure ('T' :: t ++ o.getD [])

/-- A day, a time of day, or both. -/
def moment : Scan Json := do
  let cs ←
    (do
      let d ← day
      let t ← optional timeBehindDay
      pure (d ++ t.getD [])) <|> timeOfDay
  pure (.str (String.ofList cs))

/-! ## Any of them -/

/-- A truth value. -/
def truth : Scan Json :=
  (do word "true"; pure (.bool true)) <|> (do word "false"; pure (.bool false))

/-- A value that holds no others. -/
def scalar : Scan Json :=
  anyString <|> truth <|> namedFloat <|> moment <|> floatNumber <|> basedNumber "0x" 16 <|>
    basedNumber "0o" 8 <|> basedNumber "0b" 2 <|> wholeNumber

end CodeFlow.Settings.Toml
