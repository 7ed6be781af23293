import CodeFlow.Json.Reader

/-!
# Reading any JSON text

Reads a text of no particular shape into a `Json` value. Lists and objects nest at most 127 deep.
-/

namespace CodeFlow.Json

/-- A member of an object, put before those that were read. -/
def readAnyMember (value : List UInt8 → Read Json) (key : String) (seen : List (String × Json))
    (bs : List UInt8) : Read (List (String × Json)) :=
  match readColon bs with
  | .error f => .error f
  | .ok bs => (value bs).map fun p => ((key, p.1) :: seen, p.2)

/-- The value of a scalar. -/
def Found.scalar? : Found → Option Json
  | .null => some .null
  | .bool b => some (.bool b)
  | .int n => some (.int n)
  | .float x => some (.float x)
  | .str s => some (.str s)
  | .arr => none
  | .obj => none

/-- A list or an object, whose values are read in a given way. -/
def readNested (value : List UInt8 → Read Json) (bs : List UInt8) : Read Json :=
  match bs with
  | 123 :: rest =>
    match readMembers (readAnyMember value) rest.length true [] rest with
    | .error f => .error f
    | .ok (members, rest) => (endObject rest).map (.obj members.reverse, ·)
  | _ => (readList value bs).map fun p => (.arr p.1, p.2)

/-- Any value, in which lists and objects nest to at most a depth. -/
def readValue : (depth : Nat) → List UInt8 → Read Json
  | 0, bs =>
    match readFound bs with
    | .error f => .error f
    | .ok (found, rest) =>
      match found.scalar? with
      | some j => .ok (j, rest)
      | none => .error (.past .tooDeep rest)
  | depth + 1, bs =>
    match readFound bs with
    | .error f => .error f
    | .ok (found, rest) =>
      match found.scalar? with
      | some j => .ok (j, rest)
      | none => readNested (readValue depth) rest

/-- How deep a document may nest. -/
def depthLimit : Nat := 127

/-- The value that a whole text stands for. -/
def readDocument (text : List UInt8) : Except Fault Json :=
  endText (readValue depthLimit text)

/-- The value of a text, if it is JSON. -/
def parse? (text : String) : Option Json :=
  match readDocument (Text.Utf8.bytesOf text) with
  | .ok j => some j
  | .error _ => none

end CodeFlow.Json
