import CodeFlow.Text.Blank

/-!
# Variables from a file

A file may give values to variables that have none. Each line assigns to one variable; its value may
be quoted, go over several lines while a quote is open, and name variables whose values are put in.
The first line that cannot be read ends the file.
-/

namespace CodeFlow.Settings.Dotenv

open CodeFlow.Text

/-- Variables and their values. -/
abbrev Variables := List (String × String)

/-! ## Lines -/

/-- The lines of a text with their ends. -/
def rawLines : List Char → List (List Char)
  | [] => []
  | c :: cs =>
    if c = '\n' then [c] :: rawLines cs
    else
      match rawLines cs with
      | [] => [[c]]
      | l :: ls => (c :: l) :: ls

/-- What is open at some place of a line. -/
inductive Opened where
  | nothing
  /-- Nothing is open, and space was just passed. -/
  | space
  | escape
  | weak
  | weakEscape
  | strong
  | strongEscape
deriving DecidableEq

/-- What is open behind a character. -/
def Opened.behind (o : Opened) (c : Char) : Opened :=
  match o with
  | .nothing =>
    if isBlank c && c != '\n' && c != '\r' then .space
    else if c = '\\' then .escape
    else if c = '"' then .weak
    else if c = '\'' then .strong
    else .nothing
  | .space =>
    if c = '\\' then .escape
    else if c = '"' then .weak
    else if c = '\'' then .strong
    else .nothing
  | .escape => .nothing
  | .weak => if c = '\\' then .weakEscape else if c = '"' then .nothing else .weak
  | .weakEscape => .weak
  | .strong => if c = '\\' then .strongEscape else if c = '\'' then .nothing else .strong
  | .strongEscape => .strong

/-- What is open at the end of a line, and the part of the line before a comment if it has one. -/
def walk : Opened → List Char → Opened × Option (List Char)
  | o, [] => (o, none)
  | o, c :: cs =>
    if o = .space ∧ c = '#' then (.nothing, some [])
    else
      let (o, front) := walk (o.behind c) cs
      (o, front.map (c :: ·))

/-- A line without its end. -/
def withoutEnd (l : List Char) : List Char :=
  match l.reverse with
  | '\n' :: '\r' :: back => back.reverse
  | '\n' :: back => back.reverse
  | _ => l

/-- Lines joined while something is open; nothing for what is still open at the end. -/
def joinLines (o : Opened) (front : List Char) : List (List Char) → List (Option (List Char))
  | [] => if o = .nothing then [] else [none]
  | l :: ls =>
    let whole := front ++ l
    if (trimStart whole).head? = some '#' then some [] :: joinLines .nothing [] ls
    else
      match walk o l with
      | (_, some part) => some (front ++ part) :: joinLines .nothing [] ls
      | (.nothing, none) => some (withoutEnd whole) :: joinLines .nothing [] ls
      | (o, none) => joinLines o whole ls

/-! ## Values -/

/-- Where in a value a character stands. The flag says that double quotes are open. -/
inductive Within where
  | text (weak : Bool)
  | strong
  | escape (weak : Bool)
  /-- In the name of a variable behind a dollar sign. -/
  | name (weak : Bool) (back : List Char)
  /-- In the name of a variable in braces. -/
  | braces (weak : Bool) (back : List Char)
  /-- Behind the value. -/
  | ending

/-- A character that stands for itself behind a backslash. -/
def isEscapable (c : Char) : Bool :=
  ['\\', '\'', '"', '$', ' '].contains c

/-- A character of the name of a variable without braces. -/
def inName (c : Char) : Bool :=
  ('a' ≤ c && c ≤ 'z') || ('A' ≤ c && c ≤ 'Z') || ('0' ≤ c && c ≤ '9')

/-- The value of a variable, which is empty if it has none. -/
def substitute (vars : Variables) (back : List Char) : List Char :=
  ((vars.lookup (String.ofList back.reverse)).getD "").toList

/-- The value that a text writes. -/
def readValue (vars : Variables) : Within → List Char → Option (List Char)
  | .text weak, [] => if weak then none else some []
  | .strong, [] => none
  | .escape weak, [] => if weak then none else some []
  | .name weak back, [] => if weak then none else some (substitute vars back)
  | .braces _ _, [] => none
  | .ending, [] => some []
  | .ending, c :: cs =>
    if c = ' ' ∨ c = '\t' then readValue vars .ending cs
    else if c = '#' then some []
    else none
  | .escape weak, c :: cs =>
    if isEscapable c then (readValue vars (.text weak) cs).map (c :: ·)
    else if c = 'n' then (readValue vars (.text weak) cs).map ('\n' :: ·)
    else none
  | .strong, c :: cs =>
    if c = '\'' then readValue vars (.text false) cs
    else (readValue vars .strong cs).map (c :: ·)
  | .name weak back, c :: cs =>
    if inName c then readValue vars (.name weak (c :: back)) cs
    else if c = '\x7b' ∧ back = [] then readValue vars (.braces weak []) cs
    else
      let value := substitute vars back
      if c = '$' then (readValue vars (.name weak []) cs).map (value ++ ·)
      else (readValue vars (.text weak) cs).map fun rest => value ++ c :: rest
  | .braces weak back, c :: cs =>
    if c = '\x7d' then
      (readValue vars (.text weak) cs).map (substitute vars back ++ ·)
    else readValue vars (.braces weak (c :: back)) cs
  | .text weak, c :: cs =>
    if c = '$' then readValue vars (.name weak []) cs
    else if c = '\\' then readValue vars (.escape weak) cs
    else if weak then
      if c = '"' then readValue vars (.text false) cs
      else (readValue vars (.text true) cs).map (c :: ·)
    else if c = '\'' then readValue vars .strong cs
    else if c = '"' then readValue vars (.text true) cs
    else if c = ' ' ∨ c = '\t' then readValue vars .ending cs
    else (readValue vars (.text false) cs).map (c :: ·)

/-! ## Assignments -/

/-- The name of a variable in front, and the rest. -/
def readKey : List Char → Option (List Char × List Char)
  | [] => none
  | c :: cs =>
    if ('a' ≤ c ∧ c ≤ 'z') ∨ ('A' ≤ c ∧ c ≤ 'Z') ∨ c = '_' then
      some ((c :: cs).span fun c => inName c || c == '_' || c == '.')
    else none

/-- The rest behind an equals sign. -/
def behindEquals : List Char → Option (List Char)
  | '=' :: cs => some cs
  | _ => none

/-- The name of the variable that a line assigns to, and what stands behind the equals sign. The
word `export` may stand in front. -/
def readTarget (cs : List Char) : Option (List Char × List Char) := do
  let (key, rest) ← readKey cs
  let rest := trimStart rest
  if String.ofList key = "export" then
    match behindEquals rest with
    | some rest => pure (key, rest)
    | none => do
      let (key, rest) ← readKey rest
      pure (key, ← behindEquals (trimStart rest))
  else pure (key, ← behindEquals rest)

/-- What a line does: nothing, or an assignment. -/
def readLine (vars : Variables) (l : List Char) : Option (Option (String × String)) :=
  let isVoid (cs : List Char) : Bool := cs.isEmpty || cs.head? == some '#'
  let cs := trim l
  if isVoid cs then some none
  else do
    let (key, rest) ← readTarget cs
    let rest := trimStart rest
    let value ← if isVoid rest then some [] else readValue vars (.text false) rest
    pure (some (String.ofList key, String.ofList value))

/-! ## Files -/

/-- Adds a variable that has no value yet. -/
def assign (vars : Variables) (v : String × String) : Variables :=
  if (vars.lookup v.1).isSome then vars else vars ++ [v]

/-- Adds what lines assign, up to the first that cannot be read. -/
def addLines (vars : Variables) : List (Option (List Char)) → Variables
  | [] => vars
  | none :: _ => vars
  | some l :: ls =>
    match readLine vars l with
    | none => vars
    | some none => addLines vars ls
    | some (some v) => addLines (assign vars v) ls

/-- Adds what a file assigns. -/
def load (text : String) (vars : Variables) : Variables :=
  let cs :=
    match text.toList with
    | '\ufeff' :: cs => cs
    | cs => cs
  addLines vars (joinLines .nothing [] (rawLines cs))

end CodeFlow.Settings.Dotenv
