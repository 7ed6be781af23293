import CodeFlow.Json.Lexer
import CodeFlow.Json.Shape

/-!
# Reading documents of a shape

Reads a text as a document of a given shape. A record is an object, whose unknown members are
passed over, or a list of its fields in their order. A value that nobody asked for is checked for
its grammar and may nest to any depth.

A loop over items or members carries a bound on its rounds. It starts at the number of bytes, of
which every round takes at least one, so the text ends before the bound is met.
-/

namespace CodeFlow.Json

/-! ## What stands at the front -/

/-- The kind of a number. -/
def Number.found : Number → Found
  | .int n => .int n
  | .float x => .float x

/-- Takes a scalar, or looks at a bracket without taking it. -/
def readFound (bs : List UInt8) : Read Found :=
  match skipSpace bs with
  | [] => .error (.here .endInValue [])
  | b :: rest =>
    if b = 110 then (readLiteral nullTail rest).map (.null, ·)
    else if b = 116 then (readLiteral trueTail rest).map (.bool true, ·)
    else if b = 102 then (readLiteral falseTail rest).map (.bool false, ·)
    else if b = 45 then (readNumber false rest).map fun p => (p.1.found, p.2)
    else if isDigit b then (readNumber true (b :: rest)).map fun p => (p.1.found, p.2)
    else if b = 34 then (readString rest).map fun p => (.str p.1, p.2)
    else if b = 91 then .ok (.arr, b :: rest)
    else if b = 123 then .ok (.obj, b :: rest)
    else .error (.past .expectedValue (b :: rest))

/-- A fault for what stands at the front, which is not what was expected. -/
def unexpected {α : Type} (expected : String) (bs : List UInt8) : Read α :=
  match readFound bs with
  | .error f => .error f
  | .ok (found, rest) => .error (.here (.wrongType found expected) rest)

/-! ## Between the items of a list -/

/-- Whether another item follows; if so, the rest begins with it, and if not, with the end. -/
def toItem (first : Bool) (bs : List UInt8) : Read Bool :=
  match skipSpace bs with
  | [] => .error (.here .endInList [])
  | b :: rest =>
    if b = 93 then .ok (false, b :: rest)
    else if first then .ok (true, b :: rest)
    else if b = 44 then
      match skipSpace rest with
      | [] => .error (.here .endInValue [])
      | c :: rest' =>
        if c = 93 then .error (.past .trailingComma (c :: rest')) else .ok (true, c :: rest')
    else .error (.past .expectedListCommaOrEnd (b :: rest))

/-- Takes the end of a list. -/
def endList (bs : List UInt8) : Except Fault (List UInt8) :=
  match skipSpace bs with
  | [] => .error (.here .endInList [])
  | b :: rest =>
    if b = 93 then .ok rest
    else if b = 44 then
      match skipSpace rest with
      | [] => .error (.here .trailingCharacters [])
      | c :: rest' =>
        .error (.past (if c = 93 then .trailingComma else .trailingCharacters) (c :: rest'))
    else .error (.past .trailingCharacters (b :: rest))

/-- The items of a list from the first or a later one on. -/
def readItems {α : Type} (item : List UInt8 → Read α) : Nat → Bool → List UInt8 → Read (List α)
  | 0, _, _ => .error (.here .endInList [])
  | fuel + 1, first, bs =>
    match toItem first bs with
    | .error f => .error f
    | .ok (false, bs) => .ok ([], bs)
    | .ok (true, bs) =>
      match item bs with
      | .error f => .error f
      | .ok (v, bs) =>
        match readItems item fuel false bs with
        | .error f => .error f
        | .ok (vs, bs) => .ok (v :: vs, bs)

/-! ## Between the members of an object -/

/-- The next key, if another member follows; if none does, the rest begins with the end. -/
def toKey (first : Bool) (bs : List UInt8) : Read (Option String) :=
  match skipSpace bs with
  | [] => .error (.here .endInObject [])
  | b :: rest =>
    if b = 125 then .ok (none, b :: rest)
    else if first then
      if b = 34 then (readString rest).map fun p => (some p.1, p.2)
      else .error (.past .keyNotString (b :: rest))
    else if b = 44 then
      match skipSpace rest with
      | [] => .error (.here .endInValue [])
      | c :: rest' =>
        if c = 34 then (readString rest').map fun p => (some p.1, p.2)
        else if c = 125 then .error (.past .trailingComma (c :: rest'))
        else .error (.past .keyNotString (c :: rest'))
    else .error (.past .expectedObjectCommaOrEnd (b :: rest))

/-- Takes the colon behind a key. -/
def readColon (bs : List UInt8) : Except Fault (List UInt8) :=
  match skipSpace bs with
  | [] => .error (.here .endInObject [])
  | b :: rest => if b = 58 then .ok rest else .error (.past .expectedColon (b :: rest))

/-- Takes the end of an object. -/
def endObject (bs : List UInt8) : Except Fault (List UInt8) :=
  match skipSpace bs with
  | [] => .error (.here .endInObject [])
  | b :: rest =>
    if b = 125 then .ok rest
    else if b = 44 then .error (.past .trailingComma (b :: rest))
    else .error (.past .trailingCharacters (b :: rest))

/-- The members of an object from the first or a later one on, each handled as its key says. -/
def readMembers {σ : Type} (member : String → σ → List UInt8 → Read σ) :
    Nat → Bool → σ → List UInt8 → Read σ
  | 0, _, _, _ => .error (.here .endInObject [])
  | fuel + 1, first, seen, bs =>
    match toKey first bs with
    | .error f => .error f
    | .ok (none, bs) => .ok (seen, bs)
    | .ok (some key, bs) =>
      match member key seen bs with
      | .error f => .error f
      | .ok (seen, bs) => readMembers member fuel false seen bs

/-- Where a fault is noticed that concerns a whole object: behind its end if that comes next. -/
def pastObject (bs : List UInt8) : List UInt8 :=
  match skipSpace bs with
  | 125 :: rest => rest
  | rest => rest

/-! ## Values that nobody asked for -/

/-- What an ignored value stands in. -/
inductive Frame where
  | list
  | object

/-- The byte that ends a list or an object. -/
def Frame.end : Frame → UInt8
  | .list => 93
  | .object => 125

/-- What is said when the text ends within. -/
def Frame.unended : Frame → Cause
  | .list => .endInList
  | .object => .endInObject

/-- What is said when neither a comma nor the end follows. -/
def Frame.unseparated : Frame → Cause
  | .list => .expectedListCommaOrEnd
  | .object => .expectedObjectCommaOrEnd

/-- Takes the ends that follow a value, then a comma if something is still open. -/
def closeFrames : List Frame → List UInt8 → Read (List Frame)
  | [], bs => .ok ([], bs)
  | f :: fs, bs =>
    match skipSpace bs with
    | [] => .error (.here f.unended [])
    | b :: rest =>
      if b = 44 then .ok (f :: fs, rest)
      else if b = f.end then closeFrames fs rest
      else .error (.past f.unseparated (b :: rest))

/-- Takes what stands before a value: in an object, its key. -/
def skipKey : Frame → List UInt8 → Except Fault (List UInt8)
  | .list, bs => .ok bs
  | .object, bs =>
    match skipSpace bs with
    | [] => .error (.here .endInObject [])
    | b :: rest =>
      if b = 34 then
        match skipString rest with
        | .error f => .error f
        | .ok rest => readColon rest
      else .error (.past .keyNotString (b :: rest))

/-- Passes over a scalar that begins with a byte. -/
def skipScalar (b : UInt8) (rest : List UInt8) : Except Fault (List UInt8) :=
  if b = 110 then readLiteral nullTail rest
  else if b = 116 then readLiteral trueTail rest
  else if b = 102 then readLiteral falseTail rest
  else if b = 45 then skipNumber rest
  else if isDigit b then skipNumber (b :: rest)
  else if b = 34 then skipString rest
  else .error (.past .expectedValue (b :: rest))

/-- The bracket that opens a list or an object. -/
def opening? (b : UInt8) : Option Frame :=
  if b = 91 then some .list else if b = 123 then some .object else none

/-- Passes over a value within some frames, and over all that follows until they have ended. -/
def skipWithin : Nat → List Frame → List UInt8 → Except Fault (List UInt8)
  | 0, _, _ => .error (.here .endInValue [])
  | fuel + 1, frames, bs =>
    match skipSpace bs with
    | [] => .error (.here .endInValue [])
    | b :: rest =>
      match opening? b with
      | none =>
        match skipScalar b rest with
        | .error f => .error f
        | .ok rest => further fuel frames rest
      | some frame =>
        match skipSpace rest with
        | [] => .error (.here frame.unended [])
        | c :: rest' =>
          if c = frame.end then further fuel frames rest'
          else
            match skipKey frame (c :: rest') with
            | .error f => .error f
            | .ok rest => skipWithin fuel (frame :: frames) rest
where
  further (fuel : Nat) (frames : List Frame) (bs : List UInt8) : Except Fault (List UInt8) :=
    match closeFrames frames bs with
    | .error f => .error f
    | .ok ([], rest) => .ok rest
    | .ok (frame :: frames, rest) =>
      match skipKey frame rest with
      | .error f => .error f
      | .ok rest => skipWithin fuel (frame :: frames) rest

/-- Passes over a value. -/
def skipValue (bs : List UInt8) : Except Fault (List UInt8) :=
  skipWithin bs.length [] bs

/-! ## Values of a shape -/

/-- A text. -/
def readText (bs : List UInt8) : Read String :=
  match readFound bs with
  | .error f => .error f
  | .ok (.str s, rest) => .ok (s, rest)
  | .ok (found, rest) => .error (.here (.wrongType found Shape.text.expected) rest)

/-- A point in time. -/
def readInstant (bs : List UInt8) : Read Time.Instant :=
  match readFound bs with
  | .error f => .error f
  | .ok (.str s, rest) =>
    match Time.Instant.read s.toList with
    | .error t => .error (.here (.malformed t.message) rest)
    | .ok t => .ok (t, rest)
  | .ok (found, rest) => .error (.here (.wrongType found Shape.instant.expected) rest)

/-- A whole number within a range. -/
def readInt {α : Type} (expected : String) (ofInt? : Int → Option α) (bs : List UInt8) : Read α :=
  match readFound bs with
  | .error f => .error f
  | .ok (.int n, rest) =>
    match ofInt? n with
    | some v => .ok (v, rest)
    | none => .error (.here (.wrongValue (.int n) expected) rest)
  | .ok (found, rest) => .error (.here (.wrongType found expected) rest)

/-- Null, or else a value. -/
def readOptional {α : Type} (read : List UInt8 → Read α) (bs : List UInt8) : Read (Option α) :=
  match skipSpace bs with
  | 110 :: rest => (readLiteral nullTail rest).map (none, ·)
  | rest => (read rest).map fun p => (some p.1, p.2)

/-- A list. -/
def readList {α : Type} (item : List UInt8 → Read α) (bs : List UInt8) : Read (List α) :=
  match skipSpace bs with
  | 91 :: rest =>
    match readItems item rest.length true rest with
    | .error f => .error f
    | .ok (vs, rest) =>
      match endList rest with
      | .error f => .error f
      | .ok rest => .ok (vs, rest)
  | rest => unexpected (Shape.list .text).expected rest

/-- A member whose key is that of a field: it must be the first of its key. -/
def readField {α : Type} (key : String) (read : List UInt8 → Read α) (seen : Option α)
    (bs : List UInt8) : Read (Option α) :=
  match seen with
  | some _ => .error (.here (.duplicate key) (pastObject bs))
  | none =>
    match readColon bs with
    | .error f => .error f
    | .ok bs => (read bs).map fun p => (some p.1, p.2)

/-- A record as an object or as a list of its fields. -/
def readRecord {σ α : Type} (called : String) (unseen : σ)
    (member : String → σ → List UInt8 → Read σ) (complete : σ → Except String α)
    (elements : Bool → List UInt8 → Read α) (bs : List UInt8) : Read α :=
  match skipSpace bs with
  | 123 :: rest =>
    match readMembers member rest.length true unseen rest with
    | .error f => .error f
    | .ok (seen, rest) =>
      match complete seen with
      | .error key => .error (.here (.missing key) (pastObject rest))
      | .ok v => (endObject rest).map (v, ·)
  | 91 :: rest =>
    match elements true rest with
    | .error f => .error f
    | .ok (v, rest) => (endList rest).map (v, ·)
  | rest => unexpected s!"struct {called}" rest

/-- An element of a record that is a list; what is to be done if there is none is left open. -/
def readElement {α : Type} (first : Bool) (read : List UInt8 → Read α) (bs : List UInt8) :
    Read (Option α) :=
  match toItem first bs with
  | .error f => .error f
  | .ok (false, bs) => .ok (none, bs)
  | .ok (true, bs) => (read bs).map fun p => (some p.1, p.2)

/-- Where a fault is noticed that concerns a whole list: behind its end. -/
def pastList (bs : List UInt8) : List UInt8 :=
  match endList bs with
  | .ok rest => rest
  | .error _ => bs

mutual

/-- A value of a shape. -/
def Shape.read : (s : Shape) → List UInt8 → Read s.Val
  | .text => readText
  | .instant => readInstant
  | .unsigned called => readInt called toUInt64?
  | .signed => readInt Shape.signed.expected toInt64?
  | .optional s => readOptional s.read
  | .list s => readList s.read
  | .record called fields =>
    readRecord called fields.unseen fields.readMember fields.complete
      (fields.readElements (expectedLength called fields) 0)

/-- A member of an object: a field, or something to pass over. -/
def Fields.readMember : (fields : Fields) → String → fields.Seen → List UInt8 → Read fields.Seen
  | .nil, _, seen, bs =>
    match readColon bs with
    | .error f => .error f
    | .ok bs => (skipValue bs).map (seen, ·)
  | .required key s rest, k, (v, seen), bs =>
    if k = key then (readField key s.read v bs).map fun p => ((p.1, seen), p.2)
    else (rest.readMember k seen bs).map fun p => ((v, p.1), p.2)
  | .nullable key s rest, k, (v, seen), bs =>
    if k = key then (readField key (readOptional s.read) v bs).map fun p => ((p.1, seen), p.2)
    else (rest.readMember k seen bs).map fun p => ((v, p.1), p.2)
  | .defaulted key s rest, k, (v, seen), bs =>
    if k = key then (readField key s.read v bs).map fun p => ((p.1, seen), p.2)
    else (rest.readMember k seen bs).map fun p => ((v, p.1), p.2)

/-- The fields as elements of a list, of which `n` have been read. -/
def Fields.readElements : (fields : Fields) → String → Nat → Bool → List UInt8 → Read fields.Val
  | .nil, _, _, _, bs => .ok ((), bs)
  | .required _ s rest, whole, n, first, bs =>
    match readElement first s.read bs with
    | .error f => .error f
    | .ok (none, bs) => .error (.here (.wrongLength n whole) (pastList bs))
    | .ok (some v, bs) =>
      (rest.readElements whole (n + 1) false bs).map fun p => ((v, p.1), p.2)
  | .nullable _ s rest, whole, n, first, bs =>
    match readElement first (readOptional s.read) bs with
    | .error f => .error f
    | .ok (none, bs) => .error (.here (.wrongLength n whole) (pastList bs))
    | .ok (some v, bs) =>
      (rest.readElements whole (n + 1) false bs).map fun p => ((v, p.1), p.2)
  | .defaulted _ s rest, whole, n, first, bs =>
    match readElement first s.read bs with
    | .error f => .error f
    | .ok (v, bs) =>
      (rest.readElements whole (n + 1) false bs).map fun p => ((v, p.1), p.2)

end

/-! ## Whole texts -/

/-- Only white space may follow a document. -/
def endText {α : Type} : Read α → Except Fault α
  | .error f => .error f
  | .ok (v, rest) =>
    match skipSpace rest with
    | [] => .ok v
    | b :: rest => .error (.past .trailingCharacters (b :: rest))

/-- The value that a whole text stands for. -/
def Form.read {α : Type} (f : Form α) (text : List UInt8) : Except Fault α :=
  (endText (f.shape.read text)).map f.ofVal

/-- The value that a whole text stands for, or what is said about the text's fault. -/
def Form.ofText {α : Type} (f : Form α) (text : String) : Except String α :=
  let bytes := Text.Utf8.bytesOf text
  match f.read bytes with
  | .ok v => .ok v
  | .error fault => .error (fault.message bytes)

end CodeFlow.Json
