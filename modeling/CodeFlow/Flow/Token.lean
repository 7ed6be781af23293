import CodeFlow.Json.Reader
import CodeFlow.Time.Rfc3339

/-!
# Tokens

What a successful login yields, and when it expires.
-/

namespace CodeFlow

/-- An access token and the session it belongs to. -/
structure Tokens where
  accessToken : String
  sessionId : String
  /-- The lifetime in seconds. -/
  expiresIn : Option Int64
  /-- The end of the lifetime in the words of the backend. -/
  expiresAt : Option String
  received : Time.Instant
deriving DecidableEq

namespace Tokens

/-- The greatest number of whole seconds in a duration, which counts milliseconds in 64 bits. -/
def durationLimit : Int := 9223372036854775

/-- The end of the lifetime; nothing if it is too long to be counted or ends beyond the span of
time. -/
def expiry? (received : Time.Instant) (seconds : Int) : Option Time.Instant :=
  if -durationLimit ≤ seconds ∧ seconds ≤ durationLimit then received.addSeconds? seconds else none

/-- Whether the lifetime is over; nothing if its end is not a time. A token without a lifetime does
not expire. -/
def isExpiredAt? (t : Tokens) (now : Time.Instant) : Option Bool :=
  match t.expiresIn with
  | none => some false
  | some seconds => (expiry? t.received seconds.toInt).map fun expiry => expiry.le now

/-- Tokens in documents. -/
def form : Json.Form Tokens where
  shape := .record "TokenResult" (.required "access_token" .text (.required "session_id" .text
    (.nullable "expires_in" .signed (.nullable "expires_at" .text
      (.required "received_at" .instant .nil)))))
  ofVal := fun (accessToken, sessionId, expiresIn, expiresAt, received, ()) =>
    ⟨accessToken, sessionId, expiresIn, expiresAt, received⟩
  toVal := fun t => (t.accessToken, t.sessionId, t.expiresIn, t.expiresAt, t.received, ())
  ofVal_toVal := fun _ => rfl

end Tokens

end CodeFlow
