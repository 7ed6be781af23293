import CodeFlow.Text.Utf8
import CodeFlow.Time.Instant
import CodeFlow.Url.Basic

/-!
# Requests and answers

What is sent to a server and what comes back. A request is a method, an address and at most a
cookie line and a body; an answer has a status, headers, a body that may break off, and the time
at which it was received. Two things are left to the network and to the library that speaks to it:
whether there is a connection at all, be it a plain or an encrypted one, and how the bytes of a body
are read as text.
-/

namespace CodeFlow.Http

open CodeFlow.Text

/-! ## Headers -/

/-- A header; its value is bytes. -/
structure Header where
  name : String
  value : List UInt8
deriving DecidableEq

/-- A byte that a header's value may hold. -/
def inValue (b : UInt8) : Bool :=
  (32 ≤ b && b != 127) || b == 9

/-- A byte that a header's value may hold if it is to be read as text. -/
def inTextValue (b : UInt8) : Bool :=
  (32 ≤ b && b < 127) || b == 9

/-- A character that a header's name may hold. -/
def inName (c : Char) : Bool :=
  c.isAlphanum || "!#$%&'*+-.^_`|~".toList.contains c

/-- The name and the value have the form that the protocol asks for. -/
def Header.isValid (h : Header) : Bool :=
  h.name ≠ "" && h.name.toList.all inName && h.value.all inValue

/-- The value as text; nothing if it has other characters than printable ASCII and tabs. -/
def Header.text? (h : Header) : Option String :=
  if h.value.all inTextValue then
    some (String.ofList (h.value.map fun b => Char.ofNat b.toNat))
  else none

/-- The header has a name, which is given in small letters. -/
def Header.isNamed (name : String) (h : Header) : Bool :=
  h.name.toLower == name

/-- A space or a tab. -/
def isPadding (b : UInt8) : Bool :=
  b == 32 || b == 9

/-- A header as it is received: without spaces and tabs around the value. -/
def Header.received (name : String) (value : List UInt8) : Header :=
  ⟨name, ((value.dropWhile isPadding).reverse.dropWhile isPadding).reverse⟩

/-! ## Requests -/

/-- What is asked for. -/
inductive Method where
  | get
  | post
deriving DecidableEq

/-- A request. A body is always JSON. -/
structure Request where
  method : Method
  url : Url
  cookie : Option String
  body : Option String

/-- The address without what only the sender needs: user name, password and fragment. -/
def bareUrl (u : Url) : Url :=
  { u with
    authority := u.authority.map fun a => { a with username := [], password := [] }
    fragment := none }

/-- Text that a header's value may hold. -/
def isValueText (s : String) : Bool :=
  (Utf8.bytesOf s).all inValue

/-- The longest address that is sent. -/
def addressLimit : Nat := 65534

/-- A character that a host's name may not hold when it is sent. -/
def isUnsendable (c : Char) : Bool :=
  c == '"' || c == '`' || c == '\x7b' || c == '\x7d'

/-- The host of an address can be named in a request. -/
def hasSendableHost (u : Url) : Bool :=
  match u.authority with
  | some a =>
    match a.host with
    | .name text => text ≠ [] && !text.any isUnsendable
    | _ => true
  | none => false

/-- A scheme under which requests are sent, without or with encryption. -/
def isSpoken (scheme : List Char) : Bool :=
  scheme == "http".toList || scheme == "https".toList

/-- A request that a client gives to the network. -/
def Request.isWellFormed (r : Request) : Bool :=
  isSpoken r.url.scheme && hasSendableHost r.url &&
    (bareUrl r.url).write.length ≤ addressLimit && r.cookie.all isValueText

/-! ## Answers -/

/-- An answer. The body is missing if the connection broke off before its end. -/
structure Answer where
  status : Nat
  headers : List Header
  body : Option (List UInt8)
  received : Time.Instant
  /-- How the bytes are read as text. The library that receives an answer goes by the encoding that
  its `Content-Type` names, and by the mark that the bytes begin with; where neither says anything,
  the text is UTF-8. -/
  decode : List UInt8 → String := Utf8.textOf

/-- What becomes of a request that is given to the network. -/
inductive Reply where
  | answer (a : Answer)
  /-- There is no connection to the server. -/
  | unreachable
  /-- The connection ends without an answer. -/
  | dropped
  /-- No answer comes. -/
  | silent

namespace Answer

/-- Success. -/
def isSuccess (a : Answer) : Bool :=
  200 ≤ a.status && a.status < 300

/-- A redirect: a status from 300 on, but not the one that says that nothing has changed. -/
def isRedirect (a : Answer) : Bool :=
  300 ≤ a.status && a.status < 400 && a.status != 304

/-- The bytes of the body; two kinds of status never have any. -/
def content? (a : Answer) : Option (List UInt8) :=
  if a.status = 204 ∨ a.status = 304 then some [] else a.body

/-- The body as text; nothing if it broke off. -/
def text? (a : Answer) : Option String :=
  a.content?.map a.decode

/-- The body as text, empty if it broke off. -/
def text (a : Answer) : String :=
  a.text?.getD ""

/-- The value of the first header with a name, if it is text. -/
def header? (a : Answer) (name : String) : Option String :=
  (a.headers.find? (Header.isNamed name)).bind Header.text?

end Answer

end CodeFlow.Http
