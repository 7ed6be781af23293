import CodeFlow.Text.Base64
import CodeFlow.Text.Blank
import CodeFlow.Text.Utf8

/-!
# Published keys

A public key is published as one line of base64 around a document in PEM form, which is base64
itself between two markers. White space is allowed anywhere in both layers of base64 and around
the document.
-/

namespace CodeFlow.Rsa

open CodeFlow.Text

/-- The marker in front of the inner layer. -/
def beginMarker : List Char := "-----BEGIN PUBLIC KEY-----".toList

/-- The marker behind the inner layer. -/
def endMarker : List Char := "-----END PUBLIC KEY-----".toList

/-- Why a text is no published key. -/
inductive EnvelopeFault where
  | outer (fault : Base64.Fault)
  | notUtf8
  | noMarkers
  | inner (fault : Base64.Fault)

/-- What is said about a fault. -/
def EnvelopeFault.message : EnvelopeFault → String
  | .outer fault => s!"envelope is not base64: {fault.message}"
  | .notUtf8 => "envelope is not UTF-8"
  | .noMarkers => "missing PUBLIC KEY PEM markers"
  | .inner fault => s!"PEM body is not base64: {fault.message}"

/-- The bytes of base64 with white space in it. -/
def decodeLoose (cs : List Char) : Except Base64.Fault (List UInt8) :=
  Base64.decode (Utf8.encode (squeeze cs))

/-- The text without one in front; nothing if it does not begin with it. -/
def withoutFront? (front : List Char) (cs : List Char) : Option (List Char) :=
  if front.isPrefixOf cs then some (cs.drop front.length) else none

/-- The text without one behind; nothing if it does not end with it. -/
def withoutBack? (back : List Char) (cs : List Char) : Option (List Char) :=
  (withoutFront? back.reverse cs.reverse).map List.reverse

/-- What stands between the markers of a document. -/
def body? (document : List Char) : Option (List Char) :=
  (withoutFront? beginMarker (trim document)).bind (withoutBack? endMarker)

/-- The encoded key in a published text. -/
def unwrap (published : String) : Except EnvelopeFault (List UInt8) :=
  match decodeLoose published.toList with
  | .error f => .error (.outer f)
  | .ok bytes =>
    match Utf8.decode? bytes with
    | none => .error .notUtf8
    | some document =>
      match body? document with
      | none => .error .noMarkers
      | some inner =>
        match decodeLoose inner with
        | .error f => .error (.inner f)
        | .ok der => .ok der

end CodeFlow.Rsa
