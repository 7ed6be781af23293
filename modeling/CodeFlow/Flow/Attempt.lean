import CodeFlow.Flow.Consent
import CodeFlow.Flow.Exchange
import CodeFlow.Flow.State
import CodeFlow.Pkce
import CodeFlow.Text.Quoted

/-!
# Logging in

A flow is a configuration that has been checked, with its key. A login is one attempt of a flow: it
owns its verifier, its random state and the state of what it has found out, and it can be run once.
-/

namespace CodeFlow

open CodeFlow.Text

/-! ## What comes from outside -/

/-- Random bytes of a given number. -/
abbrev Draw (n : Nat) := Vector UInt8 n

/-- The random bytes of one login. -/
structure LoginDraws where
  verifier : Draw Pkce.verifierBytes
  state : Draw Pkce.stateBytes
  /-- What the encryption of the password is seeded with. -/
  password : Draw 32

/-- An email and a password as they were typed in. -/
structure Credentials where
  email : String
  password : String

/-- What is shown in place of a password. -/
def hiddenPassword : String := "<redacted>"

/-- Credentials as they may be shown. -/
def Credentials.describe (c : Credentials) : String :=
  s!"Credentials \x7b email: {quoted c.email}, password: {quoted hiddenPassword} \x7d"

/-! ## Flows -/

/-- A configuration that has been checked, with its key. -/
structure LoginFlow where
  config : FlowConfig
  key : Rsa.PublicKey
  client : Client

/-- How a login ends. -/
inductive LoginOutcome where
  | authenticated (tokens : Tokens)
  | invalidCredentials (r : Rejection)

/-- One login. -/
structure Attempt where
  verifier : String
  oauthState : String
  state : FlowState

namespace LoginFlow

/-- Checks a configuration and imports its key. -/
def ofConfig (config : FlowConfig) : Except FlowError LoginFlow :=
  match config.check with
  | .error fault => .error (.config fault)
  | .ok () =>
    match Rsa.PublicKey.ofPublished config.publicKey with
    | .error fault => .error (.crypto (.importFailed fault))
    | .ok key => .ok ⟨config, key, ⟨config.httpTimeoutSeconds⟩⟩

/-- The ciphertext of a password in base64. -/
def encrypt (key : Rsa.PublicKey) (seed : Draw 32) (password : String) :
    Except CryptoError String :=
  match key.encrypt seed.toList (Utf8.bytesOf password) with
  | .error fault => .error (.encryptionFailed fault)
  | .ok ciphertext => .ok (String.ofList (Base64.encode ciphertext))

/-- Encrypts, or breaks off. -/
def encrypted (f : LoginFlow) (seed : Draw 32) (password : String) : Session String :=
  match encrypt f.key seed password with
  | .error e => throw (.crypto e)
  | .ok ciphertext => pure ciphertext

/-- Begins a login. -/
def begin (verifier : Draw Pkce.verifierBytes) (state : Draw Pkce.stateBytes) : Attempt :=
  ⟨Pkce.verifierOf verifier.toList, Pkce.stateOf state.toList, .new⟩

/-- Registers a user. The backend decrypts both passwords and compares them. -/
def register (f : LoginFlow) (seed : Draw 32) (c : Credentials) : Session RegistrationOutcome := do
  let password ← f.encrypted seed c.password
  f.client.register f.config.backend.register ⟨c.email, password, password⟩

/-- Verifies an account. -/
def verifyAccount (f : LoginFlow) (code : String) : Session Unit :=
  f.client.verifyAccount f.config.backend.verify code

end LoginFlow

/-! ## Running a login -/

/-- A session that keeps the state of a login, also when it breaks off. -/
abbrev Drive := ExceptT FlowError (StateT FlowState Dialogue)

/-- Says something, which leaves the state as it is. -/
def Drive.say {α : Type} (s : Session α) : Drive α :=
  fun state => do pure (← s.run, state)

/-- Makes a transition. A refusal breaks off, with the state as the transition left it. -/
def Drive.record (transition : Transition) : Drive Unit :=
  fun state => pure (transition.run.run state)

namespace Attempt

/-- What is asked of the provider. -/
def authorizationRequest (a : Attempt) (config : FlowConfig) : AuthorizationRequest where
  endpoint := config.authorizeEndpoint
  clientId := config.clientId
  redirectUri := config.redirectUri
  scope := config.scopeParameter
  state := a.oauthState
  codeChallenge := Pkce.challengeOf a.verifier
  codeChallengeMethod := Pkce.method

/-- What is given for the token. -/
def exchangeRequest (a : Attempt) (config : FlowConfig) (code : String) : ExchangeRequest where
  code := code
  redirectUri := config.redirectUri
  clientId := config.clientId
  codeVerifier := a.verifier

/-- The stages from accepted credentials to the token. -/
def redeem (a : Attempt) (f : LoginFlow) (csrf : Cookie) (redirectTo : String) :
    Drive LoginOutcome := do
  let consent ← Drive.say (f.client.completeConsent
    ⟨f.config.authorizeEndpoint, redirectTo, csrf, f.config.cookies⟩)
  Drive.record (FlowState.recordConsent consent.authenticationSession consent.consentCookie
    consent.authorizationCode)
  let tokens ← Drive.say (f.client.exchange f.config.backend.tokenExchange
    (a.exchangeRequest f.config consent.authorizationCode) f.config.cookies)
  Drive.record (FlowState.recordTokens tokens)
  pure (.authenticated tokens)

/-- All stages in their order. -/
def drive (a : Attempt) (f : LoginFlow) (seed : Draw 32) (c : Credentials) :
    Drive LoginOutcome := do
  -- a login that has left its first stage is not run again
  Drive.record (FlowState.expect .init)
  let grant ← Drive.say (f.client.authorize (a.authorizationRequest f.config))
  Drive.record (FlowState.recordAuthorization grant.loginChallenge grant.csrfCookie)
  -- the password is encrypted only now, so a fault of the key comes after the authorization
  let password ← Drive.say (f.encrypted seed c.password)
  let reply ← Drive.say (f.client.submitLogin f.config.backend.login
    ⟨c.email, password, grant.loginChallenge⟩)
  match reply with
  -- refused credentials are an outcome, not an error
  | .rejected rejection =>
    Drive.record FlowState.recordRejection
    pure (.invalidCredentials rejection)
  | .accepted redirectTo =>
    Drive.record (FlowState.recordLogin redirectTo)
    a.redeem f grant.csrfCookie redirectTo

/-- The state once a login has ended: an error ends it too. -/
def close {α : Type} (result : Except FlowError α) (state : FlowState) : FlowState :=
  match result with
  | .ok _ => state
  | .error e => state.fail e.message

/-- Runs a login, and what it is afterwards. A login that has been run before breaks off at once. -/
def run (a : Attempt) (f : LoginFlow) (seed : Draw 32) (c : Credentials) :
    Dialogue (Except FlowError LoginOutcome × Attempt) := do
  let (result, state) ← (a.drive f seed c).run.run a.state
  pure (result, { a with state := close result state })

end Attempt

/-- Begins a login and runs it, and what it is afterwards. -/
def LoginFlow.login (f : LoginFlow) (d : LoginDraws) (c : Credentials) :
    Dialogue (Except FlowError LoginOutcome × Attempt) :=
  (LoginFlow.begin d.verifier d.state).run f d.password c

end CodeFlow
