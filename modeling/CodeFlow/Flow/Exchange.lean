import CodeFlow.Flow.Client
import CodeFlow.Flow.Config
import CodeFlow.Flow.Token

/-!
# Redeeming the code

The code and the verifier are given for an access token. The session comes in a cookie, which is
found by its name; that it stands where it usually does is checked, but nothing relies on it.
-/

namespace CodeFlow

open CodeFlow.Http

/-- What is said about a body that holds no token. -/
def undecodable : String := "error decoding response body"

/-- The warning about a session cookie that is not where it usually is. -/
def positionWarning? (names : CookieNames) (cookies : List Cookie) : Option Warning :=
  match Cookie.position? cookies names.session, names.sessionPosition with
  | some (actual, _), some expected =>
    if actual = expected.toNat then none
    else some (.sessionPosition names.session expected.toNat actual)
  | _, _ => none

/-- The value of the session cookie, which must not be empty. -/
def sessionId (names : CookieNames) (cookies : List Cookie) : Except ProtocolError String :=
  match Cookie.position? cookies names.session with
  | none => .error (.missingCookie names.session)
  | some (_, c) => if c.value = "" then .error (.missingCookie names.session) else .ok c.value

/-- The token in a body. -/
def readExchange (a : Answer) : Except ProtocolError ExchangeBody :=
  match a.content?.map ExchangeBody.form.read with
  | some (.ok body) => .ok body
  | _ => .error (.invalidBody undecodable)

/-- The tokens in an answer of success. -/
def readTokens (names : CookieNames) (cookies : List Cookie) (a : Answer) :
    Except ProtocolError Tokens :=
  -- the cookie is looked for before the body is read
  match sessionId names cookies with
  | .error e => .error e
  | .ok session =>
    match readExchange a with
    | .error e => .error e
    | .ok body => .ok ⟨body.accessToken, session, body.expiresIn, body.expiresAt, a.received⟩

/-- Redeems a code. -/
def Client.exchange (c : Client) (endpoint : String) (r : ExchangeRequest) (names : CookieNames) :
    Session Tokens := do
  let answer ← c.post .tokenExchange endpoint r.toJson
  if !answer.isSuccess then .breaks .tokenExchange (.exchangeFailed answer.status answer.text)
  else
    let cookies := Cookie.capture answer.headers
    -- the warning comes even where the cookie or the body then turns out to be useless
    match positionWarning? names cookies with
    | some w => (Dialogue.log w : Dialogue Unit)
    | none => pure ()
    .ofRead .tokenExchange (readTokens names cookies answer)

end CodeFlow
