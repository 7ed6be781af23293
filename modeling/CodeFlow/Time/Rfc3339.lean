import CodeFlow.Text.Blank
import CodeFlow.Time.Instant

/-!
# RFC 3339 times

Instants as text. The writer uses universal time, a sign for years outside 0 to 9999, and as many
groups of three fraction digits as the instant needs. The reader takes more than the writer
gives: white space before each number and mark, a space or a small letter between date and time,
any offset, and any number of fraction digits.
-/

namespace CodeFlow.Time

open CodeFlow.Text (isBlank trimStart)

/-! ## Writing -/

/-- A number in decimal, with zeros in front up to a width. -/
def padded (width n : Nat) : List Char :=
  let digits := (toString n).toList
  List.replicate (width - digits.length) '0' ++ digits

/-- The year: four digits, or a sign and at least four digits outside 0 to 9999. -/
def writeYear (y : Int) : List Char :=
  if 0 ≤ y ∧ y ≤ 9999 then padded 4 y.toNat
  else (if y < 0 then '-' else '+') :: padded 4 y.natAbs

/-- The fraction of a second in none, three, six or nine digits. -/
def writeFraction (nanos : Nat) : List Char :=
  if nanos = 0 then []
  else if nanos % 1000000 = 0 then '.' :: padded 3 (nanos / 1000000)
  else if nanos % 1000 = 0 then '.' :: padded 6 (nanos / 1000)
  else '.' :: padded 9 nanos

/-- The time of day, in seconds since midnight. -/
def Instant.secondOfDay (t : Instant) : Nat :=
  (t.seconds % 86400).toNat

/-- The day. -/
def Instant.date (t : Instant) : Date :=
  Date.ofDays (t.seconds / 86400)

/-- The characters of an instant in universal time. -/
def Instant.write (t : Instant) : List Char :=
  let d := t.date
  let s := t.secondOfDay
  let second := s % 60 + if t.isLeap then 1 else 0
  let nanos := if t.isLeap then t.nanos - billion else t.nanos
  writeYear d.year ++ '-' :: padded 2 d.month ++ '-' :: padded 2 d.day ++
    'T' :: padded 2 (s / 3600) ++ ':' :: padded 2 (s / 60 % 60) ++ ':' :: padded 2 second ++
    writeFraction nanos ++ ['Z']

/-- The text of an instant in universal time. -/
def Instant.toText (t : Instant) : String :=
  String.ofList t.write

/-! ## Reading -/

/-- Why a text is no time. -/
inductive TimeFault where
  | tooShort
  | tooLong
  | invalid
  | outOfRange
  | impossible
deriving DecidableEq, Repr

/-- What is said about a fault. -/
def TimeFault.message : TimeFault → String
  | .tooShort => "premature end of input"
  | .tooLong => "trailing input"
  | .invalid => "input contains invalid characters"
  | .outOfRange => "input is out of range"
  | .impossible => "no possible date and time matching input"

/-- A decimal digit. -/
def digit? (c : Char) : Option Nat :=
  if '0' ≤ c ∧ c ≤ '9' then some (c.toNat - 48) else none

/-- The digits in front, at most `limit` of them, and the rest. -/
def takeDigits : Nat → List Char → List Nat × List Char
  | 0, cs => ([], cs)
  | _ + 1, [] => ([], [])
  | limit + 1, c :: cs =>
    match digit? c with
    | some d => let (ds, rest) := takeDigits limit cs; (d :: ds, rest)
    | none => ([], c :: cs)

/-- The number that digits stand for, continuing from `n`. -/
def numberOf (n : Nat) (ds : List Nat) : Nat :=
  ds.foldl (fun n d => n * 10 + d) n

/-- The greatest number that is read. -/
def numberLimit : Nat := 9223372036854775807

/-- A number of at least one and at most `limit` digits. -/
def readNumber (limit : Nat) (cs : List Char) : Except TimeFault (Nat × List Char) :=
  match cs with
  | [] => .error .tooShort
  | _ =>
    match takeDigits limit cs with
    | ([], _) => .error .invalid
    | (ds, rest) =>
      let n := numberOf 0 ds
      if numberLimit < n then .error .outOfRange else .ok (n, rest)

/-- A number of at most two digits between bounds, after white space. -/
def readField (least greatest : Nat) (cs : List Char) : Except TimeFault (Nat × List Char) := do
  let (n, rest) ← readNumber 2 (trimStart cs)
  if least ≤ n ∧ n ≤ greatest then .ok (n, rest) else .error .outOfRange

/-- A mark, after white space. -/
def readMark (mark : Char) (cs : List Char) : Except TimeFault (List Char) :=
  match trimStart cs with
  | [] => .error .tooShort
  | c :: rest => if c = mark then .ok rest else .error .invalid

/-- The year: up to four digits, or a sign and any number of digits. -/
def readYear (cs : List Char) : Except TimeFault (Int × List Char) := do
  let (y, rest) ←
    match trimStart cs with
    | '-' :: rest => do
      let (n, rest) ← readNumber rest.length rest
      .ok (-(n : Int), rest)
    | '+' :: rest => do
      let (n, rest) ← readNumber rest.length rest
      .ok ((n : Int), rest)
    | rest => do
      let (n, rest) ← readNumber 4 rest
      .ok ((n : Int), rest)
  if -2147483648 ≤ y ∧ y ≤ 2147483647 then .ok (y, rest) else .error .outOfRange

/-- Nanoseconds after the point, if there is one; digits beyond the ninth are dropped. -/
def readFraction (cs : List Char) : Except TimeFault (Nat × List Char) :=
  match cs with
  | '.' :: rest => do
    let (_, after) ← readNumber 9 rest
    let (ds, _) := takeDigits 9 rest
    .ok (numberOf 0 ds * Nat.pow 10 (9 - ds.length), after.dropWhile fun c => (digit? c).isSome)
  | _ => .ok (0, cs)

/-- How many bytes a text takes. -/
def byteLength (cs : List Char) : Nat :=
  cs.foldr (fun c n => c.utf8Size + n) 0

/-- The offset from universal time in seconds: a zone letter, or a sign, two digits of hours and
two of minutes with colons or white space between them. -/
def readOffset (cs : List Char) : Except TimeFault (Int × List Char) :=
  match cs with
  | [] => .error .tooShort
  | sign :: rest =>
    if sign = 'Z' ∨ sign = 'z' then .ok (0, rest)
    else if ¬ (sign = '+' ∨ sign = '-' ∨ sign = '\u2212') then .error .invalid
    else
      match rest with
      | h1 :: h2 :: rest =>
        match digit? h1, digit? h2 with
        | some h1, some h2 =>
          match rest.dropWhile fun c => c == ':' || isBlank c with
          | m1 :: m2 :: rest =>
            match digit? m1, digit? m2 with
            | some m1, some m2 =>
              if 6 ≤ m1 then .error .outOfRange
              else
                let offset : Int := (h1 * 10 + h2) * 3600 + (m1 * 10 + m2) * 60
                .ok (if sign = '+' then offset else -offset, rest)
            | _, _ => .error .invalid
          | short => if byteLength short < 2 then .error .tooShort else .error .invalid
        | _, _ => .error .invalid
      | short =>
        if byteLength short < 2 then .error .tooShort else .error .invalid

/-- The zone, after white space: an offset, or the name of universal time. -/
def readZone (cs : List Char) : Except TimeFault (Int × List Char) :=
  match trimStart cs with
  | u :: t :: c :: rest =>
    if (u = 'U' ∨ u = 'u') ∧ (t = 'T' ∨ t = 't') ∧ (c = 'C' ∨ c = 'c') then .ok (0, rest)
    else readOffset (u :: t :: c :: rest)
  | cs => readOffset cs

/-- The instant of a date, a time of day and an offset. The sixtieth second is the leap second. -/
def assemble (date : Date) (hour minute second nanos : Nat) (offset : Int) :
    Except TimeFault Instant :=
  if ¬ (-262143 ≤ date.year ∧ date.year ≤ 262142 ∧ date.isValid) then .error .outOfRange
  else if ¬ (-86400 < offset ∧ offset < 86400) then .error .outOfRange
  else
    let leap := second = 60
    let seconds := date.toDays * 86400 + hour * 3600 + minute * 60 +
      (if leap then 59 else second) - offset
    match Instant.ofParts? seconds (if leap then billion + nanos else nanos) with
    | some t => .ok t
    | none => .error .impossible

/-- The instant that the characters stand for. -/
def Instant.read (cs : List Char) : Except TimeFault Instant := do
  let (year, cs) ← readYear cs
  let cs ← readMark '-' cs
  let (month, cs) ← readField 1 12 cs
  let cs ← readMark '-' cs
  let (day, cs) ← readField 1 31 cs
  let cs ←
    match cs with
    | [] => .error .tooShort
    | c :: cs => if c = 'T' ∨ c = 't' ∨ c = ' ' then .ok cs else .error .invalid
  let (hour, cs) ← readField 0 23 cs
  let cs ← readMark ':' cs
  let (minute, cs) ← readField 0 59 cs
  let cs ← readMark ':' cs
  let (second, cs) ← readField 0 60 cs
  let (nanos, cs) ← readFraction cs
  let (offset, cs) ← readZone cs
  if (trimStart cs).isEmpty then assemble ⟨year, month, day⟩ hour minute second nanos offset
  else .error .tooLong

end CodeFlow.Time
