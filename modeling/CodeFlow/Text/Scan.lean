import CodeFlow.Text.Digit

/-!
# Reading from the front of a text

A scan takes something from the front of a text and leaves the rest, or fails. Repetition is
bounded by the length of the text, so scans end whatever they repeat.
-/

namespace CodeFlow.Text

/-- Takes something from the front of a text, or fails. -/
abbrev Scan := StateT (List Char) Option

namespace Scan

variable {α : Type}

/-- The next character, which stays; none at the end. -/
def peek? : Scan (Option Char) := fun cs => some (cs.head?, cs)

/-- The end of the text. -/
def atEnd : Scan Unit := fun cs => if cs.isEmpty then some ((), cs) else none

/-- A character of a class. -/
def char (p : Char → Bool) : Scan Char
  | [] => none
  | c :: cs => if p c then some (c, cs) else none

/-- A certain character. -/
def symbol (c : Char) : Scan Unit := do
  let _ ← char (· == c)

/-- The rest behind a word. -/
def behind? : List Char → List Char → Option (List Char)
  | [], cs => some cs
  | _ :: _, [] => none
  | w :: ws, c :: cs => if w = c then behind? ws cs else none

/-- A certain word. -/
def word (w : String) : Scan Unit := fun cs => (behind? w.toList cs).map ((), ·)

/-- All characters of a class that are in front. -/
def many (p : Char → Bool) : Scan (List Char) := fun cs => some (cs.takeWhile p, cs.dropWhile p)

/-- All characters of a class that are in front, at least one. -/
def many1 (p : Char → Bool) : Scan (List Char) := do
  let c ← char p
  let cs ← many p
  pure (c :: cs)

/-- Repeats a scan until it fails, at most so many times. -/
def repeatedUpTo (s : Scan α) : Nat → Scan (List α)
  | 0 => pure []
  | n + 1 => do
    match ← optional s with
    | none => pure []
    | some a => do
      let as ← repeatedUpTo s n
      pure (a :: as)

/-- Repeats a scan until it fails. Each round takes at least a character, so their number is enough
rounds. -/
def repeated (s : Scan α) : Scan (List α) := fun cs => repeatedUpTo s cs.length cs

/-- Things with a separator between each two, at least one. -/
def separated (item : Scan α) (separator : Scan Unit) : Scan (List α) := do
  let a ← item
  let as ← repeated (do separator; item)
  pure (a :: as)

/-- A character by its number in so many hexadecimal digits. -/
def charByNumber (digits : Nat) : Scan Char := do
  match numberIn? 16 (← (List.range digits).mapM fun _ => char (isDigitIn 16)) with
  | none => failure
  | some n => if n.isValidChar then pure (Char.ofNat n) else failure

/-- Reads a whole text. -/
def whole? (s : Scan α) (cs : List Char) : Option α :=
  match s cs with
  | some (a, []) => some a
  | _ => none

end Scan

end CodeFlow.Text
