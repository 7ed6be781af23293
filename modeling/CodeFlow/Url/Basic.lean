import CodeFlow.Url.Host
import CodeFlow.Url.Query

/-!
# Addresses

An address in its parts, and its text. Every part is kept in the form in which it is written, so
writing only joins them. The pairs of the query are a view of the address; replacing the query and
adding pairs to it are its operations.
-/

namespace CodeFlow

open CodeFlow.Url

/-! ## Parts -/

namespace Url

/-- What stands between `//` and the path. An empty user name or password is not there. -/
structure Authority where
  username : List Char
  password : List Char
  host : Host
  port : Option Nat
deriving DecidableEq, Repr

/-- A path: segments, each behind a slash, or a text of no structure. -/
inductive Path where
  | segments (ss : List (List Char))
  | bare (text : List Char)
deriving DecidableEq, Repr

end Url

/-- An address. -/
structure Url where
  scheme : List Char
  authority : Option Authority
  path : Path
  query : Option (List Char)
  fragment : Option (List Char)
deriving DecidableEq, Repr

namespace Url

/-! ## Schemes -/

/-- The schemes that have rules of their own. -/
inductive Kind where
  | file
  | special
  | other
deriving DecidableEq, Repr

/-- The kind of a scheme. -/
def kindOf (scheme : List Char) : Kind :=
  if scheme = "file".toList then .file
  else if scheme ∈ ["http".toList, "https".toList, "ws".toList, "wss".toList, "ftp".toList] then
    .special
  else .other

/-- One of the well-known schemes. -/
def Kind.isSpecial : Kind → Bool
  | .other => false
  | _ => true

/-- The port that a scheme has if none is given. -/
def defaultPort (scheme : List Char) : Option Nat :=
  if scheme = "http".toList ∨ scheme = "ws".toList then some 80
  else if scheme = "https".toList ∨ scheme = "wss".toList then some 443
  else if scheme = "ftp".toList then some 21
  else none

/-! ## Writing -/

/-- The user name and the password with their signs. -/
def writeUserinfo (username password : List Char) : List Char :=
  if username = [] ∧ password = [] then []
  else username ++ (if password = [] then [] else ':' :: password) ++ ['@']

/-- The port behind a colon. -/
def writePort : Option Nat → List Char
  | some n => ':' :: decimal n
  | none => []

/-- The authority with its slashes. -/
def Authority.write (a : Authority) : List Char :=
  '/' :: '/' :: writeUserinfo a.username a.password ++ a.host.write ++ writePort a.port

/-- The path. -/
def Path.write : Path → List Char
  | .segments ss => ss.flatMap ('/' :: ·)
  | .bare text => text

/-- A path that would be taken for an authority. -/
def Path.looksLikeAuthority : Path → Bool
  | .segments ([] :: _ :: _) => true
  | _ => false

/-- What stands between the scheme and the path. -/
def beforePath (authority : Option Authority) (path : Path) : List Char :=
  match authority with
  | some a => a.write
  | none => if path.looksLikeAuthority then ['/', '.'] else []

/-- A query or a fragment behind its sign. -/
def writePart (sign : Char) : Option (List Char) → List Char
  | some text => sign :: text
  | none => []

/-- The text of an address. -/
def write (u : Url) : List Char :=
  u.scheme ++ ':' :: beforePath u.authority u.path ++ u.path.write ++ writePart '?' u.query ++
    writePart '#' u.fragment

/-- The text of an address. -/
def text (u : Url) : String :=
  String.ofList u.write

/-! ## The query -/

/-- The pairs of the query; none without a query. -/
def pairs (u : Url) : List (String × String) :=
  match u.query with
  | some q => pairsOf q
  | none => []

/-- The value of the first pair with a key, unless it is empty. -/
def parameter? (u : Url) (name : String) : Option String :=
  (u.pairs.lookup name).filter (· ≠ "")

/-- A path of no structure loses the spaces at its end once nothing follows it. -/
def Path.withoutFinalSpaces : Path → Path
  | .bare text => .bare (text.reverse.dropWhile (· = ' ')).reverse
  | path => path

/-- The address with another query, or none. -/
def withQuery (u : Url) (query : Option (List Char)) : Url :=
  match query with
  | some q =>
    { u with query := some (percentEncode (inQuery (kindOf u.scheme).isSpecial) q) }
  | none =>
    if u.fragment = none then { u with query := none, path := u.path.withoutFinalSpaces }
    else { u with query := none }

/-- The address with pairs behind those it has; an empty query goes away. -/
def addPairs (u : Url) (ps : List (String × String)) : Url :=
  match appendPairs (u.query.getD []) ps with
  | [] => u.withQuery none
  | q => { u with query := some q }

end Url

end CodeFlow
