import CodeFlow.Flow.Client
import CodeFlow.Flow.Config

/-!
# Consent

Three requests lead from accepted credentials to the code: the login is accepted, the consent is
fetched and the consent is accepted. Each needs the cookies or the address that the one before it
brought.
-/

namespace CodeFlow

/-- What the consent yields. -/
structure ConsentGrant where
  authenticationSession : Cookie
  consentCookie : Cookie
  authorizationCode : String

/-- What the consent needs. -/
structure ConsentRequest where
  authorizeEndpoint : String
  /-- The address that the backend gave when it accepted the credentials. -/
  redirectTo : String
  csrfCookie : Cookie
  cookieNames : CookieNames

/-- What the provider answers when it accepts the login. -/
structure LoginAcceptance where
  consentUrl : Url
  authenticationSession : Cookie
  consentCookie : Cookie

/-- The acceptance in a redirect. -/
def readAcceptance (names : CookieNames) (r : Redirect) : Except ProtocolError LoginAcceptance :=
  match requireCookie r.cookies names.sessionPrefix with
  | .error e => .error e
  | .ok session =>
    match requireCookie r.cookies names.consentPrefix with
    | .error e => .error e
    | .ok consent => .ok ⟨r.location, session, consent⟩

/-- The code in a redirect. -/
def readCode (r : Redirect) : Except ProtocolError String :=
  match r.location.parameter? "code" with
  | some code => .ok code
  | none => .error .missingCode

/-- Brings the query of an address to the endpoint, with cookies, and reads the redirect. -/
def Client.replay (c : Client) (step : Step) (endpoint redirectTo : String)
    (cookies : List Cookie) : Session Redirect := do
  let url ← .ofRead step (replayUrl endpoint redirectTo)
  let answer ← c.getWithCookies step url cookies
  .ofRead step (readRedirect url answer)

/-- The provider accepts the login. -/
def Client.acceptLogin (c : Client) (r : ConsentRequest) : Session LoginAcceptance := do
  let redirect ← c.replay .acceptLogin r.authorizeEndpoint r.redirectTo [r.csrfCookie]
  .ofRead .acceptLogin (readAcceptance r.cookieNames redirect)

/-- The backend accepts the consent; the address to go to. -/
def Client.fetchConsent (c : Client) (url : Url) (cookies : List Cookie) : Session String := do
  let answer ← c.getWithCookies .fetchConsent url cookies
  let body ← expectJson .fetchConsent RedirectBody.form answer
  pure body.redirectTo

/-- The provider accepts the consent and hands out a code. -/
def Client.acceptConsent (c : Client) (endpoint redirectTo : String) (cookies : List Cookie) :
    Session String := do
  let redirect ← c.replay .acceptConsent endpoint redirectTo cookies
  .ofRead .acceptConsent (readCode redirect)

/-- The three requests in their order. -/
def Client.completeConsent (c : Client) (r : ConsentRequest) : Session ConsentGrant := do
  let accepted ← c.acceptLogin r
  -- the provider sees both cookies twice: where the consent is fetched and where it is accepted
  let cookies := [accepted.authenticationSession, accepted.consentCookie]
  let redirectTo ← c.fetchConsent accepted.consentUrl cookies
  let code ← c.acceptConsent r.authorizeEndpoint redirectTo cookies
  pure ⟨accepted.authenticationSession, accepted.consentCookie, code⟩

end CodeFlow
