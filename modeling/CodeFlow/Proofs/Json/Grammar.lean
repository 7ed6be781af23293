import CodeFlow.Proofs.Json.Spelling
import CodeFlow.Text.Digit

/-!
# The grammar of JSON

Which texts are JSON, whoever has written them: with white space wherever it may stand, with any
escapes in strings, with numbers of any size, and nested to any depth. The members of an object are
kept as they are written. A string is grammatical even if it stands for no text, because an escape
in it is half of a pair; `Says` tells which text a string stands for, if for any.
-/

namespace CodeFlow.Json

open CodeFlow.Text

/-! ## White space -/

/-- White space, or nothing. -/
def Gap (cs : List Char) : Prop :=
  ∀ c ∈ cs, c = ' ' ∨ c = '\n' ∨ c = '\t' ∨ c = '\r'

theorem Gap.nil : Gap [] := by
  simp [Gap]

theorem Gap.blank {ws : List Char} (h : Gap ws) : Blank (Utf8.encode ws) := by
  intro b hb
  obtain ⟨c, hc, hb⟩ := List.mem_flatMap.mp hb
  rcases h c hc with rfl | rfl | rfl | rfl
  all_goals
    rw [List.mem_singleton.mp hb]
    rfl

/-- What stands before an item or a member: white space, and a comma in it unless the item or
member is the first. -/
inductive Separates : Bool → List Char → Prop
  | first {ws : List Char} (h : Gap ws) : Separates true ws
  | further {ws ws' : List Char} (h : Gap ws) (h' : Gap ws') : Separates false (ws ++ ',' :: ws')

/-! ## Strings -/

/-- Four hexadecimal digits write a number. -/
structure Hex (ds : List Char) (n : Nat) : Prop where
  four : ds.length = 4
  number : numberIn? 16 ds = some n

/-- The character that a letter behind a backslash stands for. -/
def letter? : Char → Option Char
  | '"' => some '"'
  | '\\' => some '\\'
  | '/' => some '/'
  | 'b' => some '\x08'
  | 'f' => some '\x0c'
  | 'n' => some '\n'
  | 'r' => some '\r'
  | 't' => some '\t'
  | _ => none

/-- A character that stands for itself in a string. -/
structure IsPlain (c : Char) : Prop where
  notQuote : c ≠ '"'
  notBackslash : c ≠ '\\'
  notControl : ¬ c.toNat < 0x20

instance (c : Char) : Decidable (IsPlain c) :=
  decidable_of_iff (c ≠ '"' ∧ c ≠ '\\' ∧ ¬ c.toNat < 0x20)
    ⟨fun h => ⟨h.1, h.2.1, h.2.2⟩, fun h => ⟨h.notQuote, h.notBackslash, h.notControl⟩⟩

/-- What may stand between the quotes of a string. -/
inductive Quoted : List Char → Prop
  | nil : Quoted []
  | plain {c : Char} {raw : List Char} (hc : IsPlain c) (h : Quoted raw) : Quoted (c :: raw)
  | letter {c d : Char} {raw : List Char} (hc : letter? c = some d) (h : Quoted raw) :
    Quoted ('\\' :: c :: raw)
  | number {ds : List Char} {n : Nat} {raw : List Char} (hds : Hex ds n) (h : Quoted raw) :
    Quoted ('\\' :: 'u' :: (ds ++ raw))

/-- A number of the first half of a pair. -/
def IsHigh (n : Nat) : Prop := 0xD800 ≤ n ∧ n ≤ 0xDBFF

/-- A number of the second half of a pair. -/
def IsLow (n : Nat) : Prop := 0xDC00 ≤ n ∧ n ≤ 0xDFFF

/-- The character that two halves stand for. -/
def pairOf (high low : Nat) : Char :=
  Char.ofNat ((high - 0xD800) * 1024 + (low - 0xDC00) + 0x10000)

/-- The text that stands between the quotes of a string. Halves of a pair stand for nothing unless
they stand together. -/
inductive Says : List Char → List Char → Prop
  | nil : Says [] []
  | plain {c : Char} {raw s : List Char} (hc : IsPlain c) (h : Says raw s) :
    Says (c :: raw) (c :: s)
  | letter {c d : Char} {raw s : List Char} (hc : letter? c = some d) (h : Says raw s) :
    Says ('\\' :: c :: raw) (d :: s)
  | number {ds : List Char} {n : Nat} {raw s : List Char} (hds : Hex ds n) (hhigh : ¬ IsHigh n)
    (hlow : ¬ IsLow n) (h : Says raw s) : Says ('\\' :: 'u' :: (ds ++ raw)) (Char.ofNat n :: s)
  | pair {ds ds' : List Char} {high low : Nat} {raw s : List Char} (hds : Hex ds high)
    (hhigh : IsHigh high) (hds' : Hex ds' low) (hlow : IsLow low) (h : Says raw s) :
    Says ('\\' :: 'u' :: (ds ++ '\\' :: 'u' :: (ds' ++ raw))) (pairOf high low :: s)

/-- Plain characters stand for themselves. -/
theorem says_self {s : List Char} (h : ∀ c ∈ s, IsPlain c) : Says s s := by
  induction s with
  | nil => exact .nil
  | cons c s ih =>
    obtain ⟨hc, hs⟩ := List.forall_mem_cons.mp h
    exact .plain hc (ih hs)

/-- What stands for a text is grammatical. -/
theorem Says.quoted {raw s : List Char} (h : Says raw s) : Quoted raw := by
  induction h with
  | nil => exact .nil
  | plain hc _ ih => exact .plain hc ih
  | letter hc _ ih => exact .letter hc ih
  | number hds _ _ _ ih => exact .number hds ih
  | pair hds _ hds' _ _ ih => exact .number hds (.number hds' ih)

/-! ## Numbers -/

/-- One digit or more. -/
structure AreDigits (ds : List Char) : Prop where
  some : ds ≠ []
  digits : ∀ d ∈ ds, d.isDigit = true

/-- The digits before the point: no zero stands in front of others. -/
inductive Whole : List Char → Prop
  | zero : Whole ['0']
  | digits {d : Char} {ds : List Char} (h : AreDigits (d :: ds)) (hd : d ≠ '0') : Whole (d :: ds)

/-- The point and the digits behind it, or nothing. -/
inductive Places : List Char → Prop
  | none : Places []
  | digits {ds : List Char} (h : AreDigits ds) : Places ('.' :: ds)

/-- An exponent, or nothing. -/
inductive Exponent : List Char → Prop
  | none : Exponent []
  | digits {e : Char} {sign ds : List Char} (he : e = 'e' ∨ e = 'E')
    (hsign : sign = [] ∨ sign = ['+'] ∨ sign = ['-']) (h : AreDigits ds) :
    Exponent (e :: (sign ++ ds))

/-- A number without its sign. -/
inductive Unsigned : List Char → Prop
  | mk {whole places exponent : List Char} (hwhole : Whole whole) (hplaces : Places places)
    (hexponent : Exponent exponent) : Unsigned (whole ++ (places ++ exponent))

/-! ## Values -/

/-- A member of an object as it is written: what stands between the quotes of its key, and its
value. -/
structure Member where
  key : List Char
  value : List Char

mutual

/-- A value. -/
inductive Value : List Char → Prop
  | null : Value ['n', 'u', 'l', 'l']
  | yes : Value ['t', 'r', 'u', 'e']
  | no : Value ['f', 'a', 'l', 's', 'e']
  | positive {cs : List Char} (h : Unsigned cs) : Value cs
  | negative {cs : List Char} (h : Unsigned cs) : Value ('-' :: cs)
  | string {raw : List Char} (h : Quoted raw) : Value ('"' :: (raw ++ ['"']))
  | list {cs : List Char} (h : Items true cs) : Value ('[' :: cs)
  | object {ms : List Member} {cs : List Char} (h : Members true ms cs) : Value ('\x7b' :: cs)

/-- Items from the first or a later one on, and the end of their list. -/
inductive Items : Bool → List Char → Prop
  | nil {first : Bool} {ws : List Char} (h : Gap ws) : Items first (ws ++ [']'])
  | cons {first : Bool} {lead value further : List Char} (hlead : Separates first lead)
    (h : Value value) (hfurther : Items false further) :
    Items first (lead ++ (value ++ further))

/-- Members from the first or a later one on, and the end of their object. -/
inductive Members : Bool → List Member → List Char → Prop
  | nil {first : Bool} {ws : List Char} (h : Gap ws) : Members first [] (ws ++ ['\x7d'])
  | cons {first : Bool} {m : Member} {ms : List Member} {lead ws ws' further : List Char}
    (hlead : Separates first lead) (hkey : Quoted m.key) (hws : Gap ws) (hws' : Gap ws')
    (h : Value m.value) (hfurther : Members false ms further) :
    Members first (m :: ms)
      (lead ++ '"' :: (m.key ++ '"' :: (ws ++ ':' :: (ws' ++ (m.value ++ further)))))

end

/-- A whole text that is an object with some members. -/
def IsObject (text : List Char) (ms : List Member) : Prop :=
  ∃ ws cs ws', Gap ws ∧ Members true ms cs ∧ Gap ws' ∧ text = ws ++ '\x7b' :: (cs ++ ws')

/-! ## What stands at the front -/

/-- A value begins with a character that is neither white space nor the end of a list. -/
theorem Value.head {cs : List Char} (h : Value cs) :
    ∃ c rest, cs = c :: rest ∧ c.toNat < 0x80 ∧ ¬ isSpace (UInt8.ofNat c.toNat) = true ∧
      c ≠ ']' := by
  have hdigit {c : Char} (hc : c.isDigit = true) :
      c.toNat < 0x80 ∧ ¬ isSpace (UInt8.ofNat c.toNat) = true ∧ c ≠ ']' := by
    have hrange := digit_range hc
    refine ⟨by omega, not_isSpace_of_isDigit ?_, ?_⟩
    · rw [isDigit, digit?_ofNat hc]
      rfl
    · rintro rfl
      simp at hrange
  cases h with
  | null => exact ⟨'n', _, rfl, by decide⟩
  | yes => exact ⟨'t', _, rfl, by decide⟩
  | no => exact ⟨'f', _, rfl, by decide⟩
  | positive h =>
    obtain ⟨hwhole, -, -⟩ := h
    cases hwhole with
    | zero => exact ⟨'0', _, rfl, by decide⟩
    | digits h => exact ⟨_, _, rfl, hdigit (h.digits _ List.mem_cons_self)⟩
  | negative => exact ⟨'-', _, rfl, by decide⟩
  | string => exact ⟨'"', _, rfl, by decide⟩
  | list => exact ⟨'[', _, rfl, by decide⟩
  | object => exact ⟨'\x7b', _, rfl, by decide⟩

end CodeFlow.Json
