import CodeFlow.Url.Basic

/-!
# Reading addresses

Reads the text of an address, alone or in relation to another one. White space and controls at
the ends are dropped, and tabs and line ends everywhere. For the well-known schemes a backslash
counts as a slash and a host must be there; segments of one or two dots are resolved away.
-/

namespace CodeFlow.Url

/-! ## Before reading -/

/-- A space or a control. -/
def isEdge (c : Char) : Bool :=
  c.toNat ≤ 0x20

/-- A tab or the end of a line. -/
def isLineBreak (c : Char) : Bool :=
  c == '\t' || c == '\n' || c == '\r'

/-- The characters of a text that count. -/
def clean (cs : List Char) : List Char :=
  ((cs.dropWhile isEdge).reverse.dropWhile isEdge).reverse.filter fun c => !isLineBreak c

/-- An ASCII letter. -/
def isLetter (c : Char) : Bool :=
  ('a' ≤ c && c ≤ 'z') || ('A' ≤ c && c ≤ 'Z')

/-- An ASCII digit. -/
def isDigit (c : Char) : Bool :=
  '0' ≤ c && c ≤ '9'

/-- What a scheme holds behind its first letter. -/
def inScheme (c : Char) : Bool :=
  isLetter c || isDigit c || c == '+' || c == '-' || c == '.'

/-- The scheme in small letters, and what stands behind its colon. -/
def readScheme? (cs : List Char) : Option (List Char × List Char) :=
  match cs.head? with
  | some c =>
    if isLetter c then
      match cs.dropWhile inScheme with
      | ':' :: rest => some ((cs.takeWhile inScheme).map Char.toLower, rest)
      | _ => none
    else none
  | none => none

/-! ## Query and fragment -/

/-- The query and the fragment that stand at the front; the path has been taken. -/
def readTail (kind : Kind) (cs : List Char) : Option (List Char) × Option (List Char) :=
  let fragment? (cs : List Char) : Option (List Char) :=
    match cs with
    | '#' :: rest => some (percentEncode inFragment rest)
    | _ => none
  match cs with
  | '?' :: rest =>
    (some (percentEncode (inQuery kind.isSpecial) (rest.takeWhile (· ≠ '#'))),
      fragment? (rest.dropWhile (· ≠ '#')))
  | _ => (none, fragment? cs)

/-! ## Paths -/

/-- Separates segments. -/
def isSlash (kind : Kind) (c : Char) : Bool :=
  c == '/' || (kind.isSpecial && c == '\\')

/-- Ends a path. -/
def endsPath (c : Char) : Bool :=
  c == '?' || c == '#'

/-- A text cut at its slashes. -/
def splitSegments (kind : Kind) : List Char → List (List Char)
  | [] => [[]]
  | c :: cs =>
    if isSlash kind c then [] :: splitSegments kind cs
    else
      match splitSegments kind cs with
      | [] => [[c]]
      | s :: ss => (c :: s) :: ss

/-- A full stop, as it is or percent encoded. -/
def dropDot? : List Char → Option (List Char)
  | '.' :: rest => some rest
  | '%' :: '2' :: 'e' :: rest => some rest
  | '%' :: '2' :: 'E' :: rest => some rest
  | _ => none

/-- A segment that stands for the place itself. -/
def isSingleDot (s : List Char) : Bool :=
  dropDot? s == some []

/-- A segment that stands for the place above. -/
def isDoubleDot (s : List Char) : Bool :=
  (dropDot? s).bind dropDot? == some []

/-- A letter and a colon or a bar. -/
def isDrive : List Char → Bool
  | [c, d] => isLetter c && (d == ':' || d == '|')
  | _ => false

/-- The segments without the last; a drive stays. -/
def up (done : List (List Char)) : List (List Char) :=
  if done.getLast?.any isDrive then done else done.dropLast

/-- Segments behind those that are done, with dots resolved. The last one has no slash behind it,
so that a dot in its place leaves an empty segment. -/
def resolve (done : List (List Char)) : List (List Char) → List (List Char)
  | [] => done
  | [s] =>
    if isDoubleDot s then up done ++ [[]]
    else if isSingleDot s then done ++ [[]]
    else done ++ [percentEncode inPath s]
  | s :: ss =>
    if isDoubleDot s then resolve (up done) ss
    else if isSingleDot s then resolve done ss
    else resolve (done ++ [percentEncode inPath s]) ss

/-- In a file address, empty segments in front go away, and a drive there has a colon. -/
def tidyFile (segments : List (List Char)) : List (List Char) :=
  match segments.dropWhile (· = []) with
  | [] => [[]]
  | s :: ss => if isDrive s then [s.headD 'c', ':'] :: ss else s :: ss

/-- The segments of a path behind those that are done. -/
def segmentsFrom (kind : Kind) (done : List (List Char)) (text : List Char) : List (List Char) :=
  let segments := resolve done (splitSegments kind text)
  if kind = .file then tidyFile segments else segments

/-- A path, query and fragment put to the parts before them. -/
def withPath (scheme : List Char) (authority : Option Authority) (kind : Kind)
    (done : List (List Char)) (cs : List Char) : Url :=
  let (query, fragment) := readTail kind (cs.dropWhile fun c => !endsPath c)
  { scheme, authority, query, fragment
    path := .segments (segmentsFrom kind done (cs.takeWhile fun c => !endsPath c)) }

/-- A path behind an authority: its first slash may be missing, and but for the well-known schemes
the whole path. -/
def withPathStart (scheme : List Char) (authority : Option Authority) (kind : Kind)
    (cs : List Char) : Url :=
  match cs with
  | c :: rest =>
    if isSlash kind c then withPath scheme authority kind [] rest
    else if endsPath c && !kind.isSpecial then
      let (query, fragment) := readTail kind cs
      { scheme, authority, query, fragment, path := .segments [] }
    else withPath scheme authority kind [] cs
  | [] =>
    { scheme, authority, query := none, fragment := none
      path := .segments (if kind.isSpecial then [[]] else []) }

/-! ## Authorities -/

/-- Ends an authority. -/
def endsAuthority (kind : Kind) (c : Char) : Bool :=
  isSlash kind c || endsPath c

/-- The part of a text before its last `@`, if there is one, and the part behind it. -/
def splitLastAt (cs : List Char) : Option (List Char × List Char) :=
  let behind := (cs.reverse.takeWhile (· ≠ '@')).reverse
  if behind.length = cs.length then none
  else some (cs.take (cs.length - behind.length - 1), behind)

/-- User name and password, and what stands behind them. -/
def readUserinfo (kind : Kind) (cs : List Char) :
    Except Fault (List Char × List Char × List Char) :=
  match splitLastAt (cs.takeWhile fun c => !endsAuthority kind c) with
  | none => .ok ([], [], cs)
  | some ([], behind) =>
    let rest := behind ++ cs.dropWhile fun c => !endsAuthority kind c
    if rest.head?.any (endsAuthority kind) then .error .emptyHost else .ok ([], [], rest)
  | some (info, behind) =>
    let rest := behind ++ cs.dropWhile fun c => !endsAuthority kind c
    .ok (percentEncode inUserinfo (info.takeWhile (· ≠ ':')),
      percentEncode inUserinfo ((info.dropWhile (· ≠ ':')).drop 1), rest)

/-- The text of a host, up to a colon outside brackets or the end of the authority. -/
def takeHost (kind : Kind) : (inside : Bool) → List Char → List Char × List Char
  | _, [] => ([], [])
  | inside, c :: cs =>
    if (c == ':' && !inside) || endsAuthority kind c then ([], c :: cs)
    else
      let (host, rest) := takeHost kind (if c == '[' then true else if c == ']' then false else inside) cs
      (c :: host, rest)

/-- The greatest port. -/
def portLimit : Nat := 65535

/-- The digits of a port: the number, whether there are any, and the rest. -/
def readPortDigits : (n : Nat) → (any : Bool) → List Char → Except Fault (Nat × Bool × List Char)
  | n, any, [] => .ok (n, any, [])
  | n, any, c :: cs =>
    if isDigit c then
      let n := n * 10 + (c.toNat - 48)
      if portLimit < n then .error .invalidPort else readPortDigits n true cs
    else if c == '/' || c == '\\' || endsPath c then .ok (n, any, c :: cs)
    else .error .invalidPort

/-- The port, if one is given and it is not the scheme's own. -/
def readPort (scheme : List Char) (cs : List Char) : Except Fault (Option Nat × List Char) :=
  match cs with
  | ':' :: rest =>
    match readPortDigits 0 false rest with
    | .error f => .error f
    | .ok (n, any, rest) =>
      .ok (if !any || defaultPort scheme = some n then none else some n, rest)
  | _ => .ok (none, cs)

/-- What stands behind two slashes. -/
def readAuthority (scheme : List Char) (kind : Kind) (cs : List Char) : Except Fault Url :=
  match readUserinfo kind cs with
  | .error f => .error f
  | .ok (username, password, rest) =>
    let (hostText, rest) := takeHost kind false rest
    if kind.isSpecial && hostText = [] then .error .emptyHost
    else
      match if kind.isSpecial then readHost hostText else readPlainHost hostText with
      | .error f => .error f
      | .ok host =>
        -- no port stands behind an empty host
        if hostText = [] && rest.head? = some ':' then .error .emptyHost
        else
          match readPort scheme rest with
          | .error f => .error f
          | .ok (port, rest) =>
            -- nor does a user belong to one
            if hostText = [] && (username ≠ [] || password ≠ []) then .error .emptyHost
            else .ok (withPathStart scheme (some ⟨username, password, host, port⟩) kind rest)

/-! ## File addresses -/

/-- The host of a file address; the name of this machine is no host. -/
def readFileHost (text : List Char) : Except Fault Host :=
  if text = [] then .ok (.name [])
  else
    match readHost text with
    | .error f => .error f
    | .ok host => .ok (if host = .name "localhost".toList then .name [] else host)

/-- The path begins with a drive, which leaves no room for a host. -/
def startsWithDrive (u : Url) : Bool :=
  match u.path with
  | .segments (s :: _) => isDrive s
  | _ => false

/-- What stands behind `file:`. -/
def readFile (cs : List Char) : Except Fault Url :=
  let scheme := "file".toList
  let at_ (host : Host) : Option Authority := some ⟨[], [], host, none⟩
  match cs with
  | a :: b :: rest =>
    if isSlash .file a && isSlash .file b then
      let hostText := rest.takeWhile fun c => !endsAuthority .file c
      -- what looks like a host may be the drive that the path begins with
      if isDrive hostText then .ok (withPathStart scheme (at_ (.name [])) .file rest)
      else
        match readFileHost hostText with
        | .error f => .error f
        | .ok host =>
          let u := withPathStart scheme (at_ host) .file
            (rest.dropWhile fun c => !endsAuthority .file c)
          .ok (if startsWithDrive u then { u with authority := at_ (.name []) } else u)
    else .ok (withPathStart scheme (at_ (.name [])) .file cs)
  | _ => .ok (withPathStart scheme (at_ (.name [])) .file cs)

/-! ## Whole addresses -/

/-- What stands behind the colon of a scheme without rules of its own. -/
def readOther (scheme : List Char) (cs : List Char) : Except Fault Url :=
  match cs with
  | '/' :: '/' :: rest => readAuthority scheme .other rest
  | '/' :: rest => .ok (withPath scheme none .other [] rest)
  | _ =>
    let (query, fragment) := readTail .other (cs.dropWhile fun c => !endsPath c)
    .ok
      { scheme, authority := none, query, fragment
        path := .bare (percentEncode isVisible (cs.takeWhile fun c => !endsPath c)) }

/-- What stands behind the colon of a scheme. -/
def readBehindScheme (scheme : List Char) (cs : List Char) : Except Fault Url :=
  match kindOf scheme with
  | .file => readFile cs
  | .special => readAuthority scheme .special (cs.dropWhile (isSlash .special))
  | .other => readOther scheme cs

/-- The address of a text that stands alone. -/
def parse (text : String) : Except Fault Url :=
  match readScheme? (clean text.toList) with
  | some (scheme, rest) => readBehindScheme scheme rest
  | none => .error .relativeWithoutBase

/-! ## Relative addresses -/

/-- The segments of a path. -/
def Path.toSegments : Path → List (List Char)
  | .segments ss => ss
  | .bare _ => []

/-- An address without scheme, from a base with segments. -/
def readRelative (base : Url) (cs : List Char) : Except Fault Url :=
  let kind := kindOf base.scheme
  match cs with
  | [] => .ok { base with fragment := none }
  | c :: rest =>
    if c == '?' then
      let (query, fragment) := readTail kind cs
      .ok { base with query, fragment }
    else if c == '#' then .ok { base with fragment := (readTail kind cs).2 }
    else if c == '/' || c == '\\' then
      match rest with
      | d :: rest' =>
        if d == '/' || d == '\\' then
          if c == '/' && d == '/' then readAuthority base.scheme kind rest'
          else readAuthority base.scheme kind (cs.dropWhile fun c => c == '/' || c == '\\')
        else .ok (withPath base.scheme base.authority kind [] rest)
      | [] => .ok (withPath base.scheme base.authority kind [] rest)
    else .ok (withPath base.scheme base.authority kind base.path.toSegments.dropLast cs)

/-- The address of a text that stands in a document at the base. -/
def join (base : Url) (text : String) : Except Fault Url :=
  let cs := clean text.toList
  match readScheme? cs with
  | some (scheme, rest) =>
    -- the base's own scheme without two slashes says nothing: the rest is relative
    if kindOf scheme = .special && scheme = base.scheme &&
        (rest.takeWhile (isSlash .special)).length < 2 then
      readRelative base rest
    else readBehindScheme scheme rest
  | none =>
    match cs, base.path with
    | '#' :: _, _ => .ok { base with fragment := (readTail (kindOf base.scheme) cs).2 }
    | _, .bare _ => .error .relativeToBare
    | _, .segments _ => readRelative base cs

end CodeFlow.Url
