import CodeFlow.Cookie
import CodeFlow.Flow.Body
import CodeFlow.Flow.Dialogue
import CodeFlow.Flow.Error
import CodeFlow.Url.Parser

/-!
# Requests of a login

The single requests of a login and what is read from their answers. Redirects are not followed:
the address and the cookies of each are taken from its headers for the request that comes next.
-/

namespace CodeFlow

open CodeFlow.Http

/-! ## Sending -/

/-- A dialogue that may end in an error. -/
abbrev Session := ExceptT FlowError Dialogue

/-- Says what a client sends its requests with. -/
structure Client where
  /-- The time limit in seconds; with none left, every request runs out of time. -/
  timeout : UInt64
deriving DecidableEq

/-- Breaks off because of a server. -/
def Session.breaks {α : Type} (step : Step) (e : ProtocolError) : Session α :=
  throw (.protocol step e)

/-- Breaks off because of the network. -/
def Session.fails {α : Type} (step : Step) (fault : NetworkFault) : Session α :=
  throw (.network step fault)

/-- Sends a request and waits for the answer. -/
def Client.send (c : Client) (step : Step) (r : Request) : Session Answer :=
  -- what cannot be put into a request is refused before any time passes
  if !r.isWellFormed then .fails step .refused
  -- without time no connection is tried
  else if c.timeout = 0 then .breaks step .timeout
  else do
    match ← (Dialogue.ask r : Dialogue Reply) with
    | .answer a => pure a
    | .unreachable => .fails step .unreachable
    | .dropped => .fails step .closed
    | .silent => .breaks step .timeout

/-- Reads the address of an endpoint. -/
def endpointUrl (step : Step) (endpoint : String) : Session Url :=
  match Url.parse endpoint with
  | .ok url => pure url
  | .error _ => .fails step .refused

/-- Asks an endpoint with parameters. -/
def Client.get (c : Client) (step : Step) (endpoint : String) (ps : List (String × String)) :
    Session (Url × Answer) := do
  let url := (← endpointUrl step endpoint).addPairs ps
  pure (url, ← c.send step ⟨.get, url, none, none⟩)

/-- Asks an address with cookies. -/
def Client.getWithCookies (c : Client) (step : Step) (url : Url) (cookies : List Cookie) :
    Session Answer :=
  c.send step ⟨.get, url, some (Cookie.line cookies), none⟩

/-- Posts a JSON body to an endpoint. -/
def Client.post (c : Client) (step : Step) (endpoint : String) (body : Json) : Session Answer := do
  c.send step ⟨.post, ← endpointUrl step endpoint, none, some body.compact⟩

/-! ## Reading answers -/

/-- A redirect that was not followed. -/
structure Redirect where
  location : Url
  cookies : List Cookie

/-- The error that a provider reports in an address. -/
def providerError? (location : Url) : Option ProtocolError :=
  (location.parameter? "error").map fun error =>
    .providerRejected error ((location.parameter? "error_description").getD "")

/-- Reads a redirect; its location is relative to the address that was asked. -/
def readRedirect (asked : Url) (a : Answer) : Except ProtocolError Redirect :=
  if !a.isRedirect then .error (.unexpectedStatus a.status a.text)
  else
    -- the first location counts, even where a later one could be read
    match a.header? "location" with
    | none => .error .missingLocation
    | some text =>
      match (bareUrl asked).join text with
      | .error fault => .error (.invalidRedirect fault)
      | .ok location =>
        -- an error that the provider reports wins over all that the redirect may lack
        match providerError? location with
        | some e => .error e
        | none => .ok ⟨location, Cookie.capture a.headers⟩

/-- Goes on with what was read, or breaks off. -/
def Session.ofRead {α : Type} (step : Step) : Except ProtocolError α → Session α
  | .ok a => pure a
  | .error e => .breaks step e

/-- Reads a JSON body of a form. -/
def readJson {α : Type} (form : Json.Form α) (status : Nat) (success : Bool) (body : String) :
    Except ProtocolError α :=
  if !success then .error (.unexpectedStatus status body)
  else
    match form.ofText body with
    | .ok v => .ok v
    | .error message => .error (.invalidBody message)

/-- Asks for an answer of success with a JSON body of a form. -/
def expectJson {α : Type} (step : Step) (form : Json.Form α) (a : Answer) : Session α :=
  match a.text? with
  | none => .fails step .interrupted
  | some body => .ofRead step (readJson form a.status a.isSuccess body)

/-- The first cookie whose name begins with a text; there must be one. -/
def requireCookie (cookies : List Cookie) (front : String) : Except ProtocolError Cookie :=
  match Cookie.findPrefix? cookies front with
  | some c => .ok c
  | none => .error (.missingCookie front)

/-- An endpoint with the query of another address in place of its own. The provider gives
addresses under its public name, which may be out of reach; only their query is used. -/
def replayUrl (endpoint redirectTo : String) : Except ProtocolError Url :=
  match Url.parse redirectTo with
  | .error fault => .error (.invalidRedirect fault)
  | .ok redirect =>
    match Url.parse endpoint with
    | .error fault => .error (.invalidRedirect fault)
    | .ok url => .ok (url.withQuery redirect.query)

/-! ## Authorization -/

/-- What is asked of the provider. -/
structure AuthorizationRequest where
  endpoint : String
  clientId : String
  redirectUri : String
  scope : String
  state : String
  codeChallenge : String
  codeChallengeMethod : String

/-- The parameters in their order. -/
def AuthorizationRequest.query (r : AuthorizationRequest) : List (String × String) :=
  [("response_type", "code"), ("client_id", r.clientId), ("state", r.state), ("scope", r.scope),
    ("redirect_uri", r.redirectUri), ("code_challenge", r.codeChallenge),
    ("code_challenge_method", r.codeChallengeMethod)]

/-- What the provider answers. -/
structure AuthorizationGrant where
  loginChallenge : String
  csrfCookie : Cookie

/-- The name by which a missing first cookie is reported. -/
def csrfCookieName : String := "oauth2_authentication_csrf"

/-- The grant in a redirect. -/
def readGrant (r : Redirect) : Except ProtocolError AuthorizationGrant :=
  match r.location.parameter? "login_challenge" with
  | none => .error .missingChallenge
  | some challenge =>
    match r.cookies.head? with
    | none => .error (.missingCookie csrfCookieName)
    | some csrf => .ok ⟨challenge, csrf⟩

/-- Asks the provider to authorize a login. -/
def Client.authorize (c : Client) (r : AuthorizationRequest) : Session AuthorizationGrant := do
  let (url, answer) ← c.get .authorize r.endpoint r.query
  .ofRead .authorize ((readRedirect url answer).bind readGrant)

/-! ## Credentials -/

/-- What the backend answers to credentials. -/
inductive LoginReply where
  | accepted (redirectTo : String)
  | rejected (r : Rejection)

/-- What is said about refused credentials if the backend says nothing. -/
def usualRejection : String := "invalid email or password"

/-- Posts credentials to the backend. -/
def Client.submitLogin (c : Client) (endpoint : String) (s : LoginSubmission) :
    Session LoginReply := do
  let answer ← c.post .submitLogin endpoint s.toJson
  if answer.status = 401 then
    pure (.rejected ⟨(BackendMessage.ofBody answer.text).text?.getD usualRejection⟩)
  else
    let body ← expectJson .submitLogin RedirectBody.form answer
    pure (.accepted body.redirectTo)

/-! ## Registration -/

/-- What becomes of a registration. -/
inductive RegistrationOutcome where
  | created
  | alreadyRegistered (message : String)
deriving DecidableEq

/-- What is said about a known user if the backend says nothing. -/
def usualRefusal : String := "already registered"

/-- Registers a user with the backend. -/
def Client.register (c : Client) (endpoint : String) (s : RegistrationSubmission) :
    Session RegistrationOutcome := do
  let answer ← c.post .register endpoint s.toJson
  if answer.isSuccess then pure .created
  else if answer.status = 422 then do
    let message := (BackendMessage.ofBody answer.text).text?.getD usualRefusal
    (Dialogue.log (.alreadyRegistered message) : Dialogue Unit)
    pure (.alreadyRegistered message)
  else .breaks .register (.unexpectedStatus answer.status answer.text)

/-- Verifies an account with a code. -/
def Client.verifyAccount (c : Client) (endpoint code : String) : Session Unit := do
  let (_, answer) ← c.get .verifyAccount endpoint [("code", code)]
  if answer.isSuccess then pure ()
  else .breaks .verifyAccount (.unexpectedStatus answer.status answer.text)

end CodeFlow
