import CodeFlow.Cookie
import CodeFlow.Flow.Error
import CodeFlow.Flow.Token

/-!
# The state of a login

What a login has found out so far. Each transition asks for a stage and fills its fields; nothing
that is recorded is ever overwritten, and a login that is over stays as it is.
-/

namespace CodeFlow

/-- The state of one login. -/
structure FlowState where
  stage : Stage
  loginChallenge : Option String
  authenticationCookie : Option Cookie
  redirectTo : Option String
  authenticationSession : Option Cookie
  consentCookie : Option Cookie
  authorizationCode : Option String
  accessToken : Option String
  sessionId : Option String
  expiresIn : Option Int64
  expiresAt : Option String
deriving DecidableEq

/-- Work on a state that may be refused on the way. What was written before a refusal stays
written. -/
abbrev Transition := ExceptT FlowError (StateM FlowState) Unit

namespace FlowState

/-- Nothing has happened yet. -/
def new : FlowState :=
  ⟨.init, none, none, none, none, none, none, none, none, none, none⟩

/-- Asks for a stage. -/
def expect (expected : Stage) : Transition := do
  let s ← get
  if s.stage = expected then pure () else throw (.outOfOrder expected s.stage)

/-- Goes from a stage to the next. -/
def advance (expected next : Stage) : Transition := do
  expect expected
  modify fun s => { s with stage := next }

/-- The provider knows of the login. -/
def recordAuthorization (challenge : String) (csrf : Cookie) : Transition := do
  advance .init .authorized
  modify fun s => { s with loginChallenge := some challenge, authenticationCookie := some csrf }

/-- The backend accepted the credentials. -/
def recordLogin (redirectTo : String) : Transition := do
  advance .authorized .credentialsSubmitted
  modify fun s => { s with redirectTo := some redirectTo }

/-- The backend refused the credentials. -/
def recordRejection : Transition :=
  advance .authorized .rejected

/-- The provider handed out a code. -/
def recordConsent (session consent : Cookie) (code : String) : Transition := do
  advance .credentialsSubmitted .consented
  modify fun s =>
    { s with
      authenticationSession := some session
      consentCookie := some consent
      authorizationCode := some code }

/-- The code was redeemed. -/
def recordTokens (tokens : Tokens) : Transition := do
  advance .consented .tokenExchanged
  modify fun s =>
    { s with
      accessToken := some tokens.accessToken
      sessionId := some tokens.sessionId
      expiresIn := tokens.expiresIn
      expiresAt := tokens.expiresAt }

/-- The login fails, unless it is over. -/
def fail (s : FlowState) (reason : String) : FlowState :=
  if s.stage.isTerminal then s else { s with stage := .failed reason }

end FlowState

/-! ## Operations as data -/

/-- An operation on a state. -/
inductive StateOp where
  | expect (stage : Stage)
  | authorization (challenge : String) (csrf : Cookie)
  | login (redirectTo : String)
  | rejection
  | consent (session consent : Cookie) (code : String)
  | tokens (tokens : Tokens)
  | fail (reason : String)

namespace FlowState

/-- The work of an operation. -/
def transitionOf : StateOp → Transition
  | .expect stage => expect stage
  | .authorization challenge csrf => recordAuthorization challenge csrf
  | .login redirectTo => recordLogin redirectTo
  | .rejection => recordRejection
  | .consent session consent code => recordConsent session consent code
  | .tokens tokens => recordTokens tokens
  | .fail reason => modify fun s => s.fail reason

/-- What comes of an operation, and the state that it leaves behind. -/
def undergo (s : FlowState) (op : StateOp) : Except FlowError Unit × FlowState :=
  (transitionOf op).run.run s

/-- The state that an operation leads to, or its refusal. -/
def perform (s : FlowState) (op : StateOp) : Except FlowError FlowState :=
  (s.undergo op).1.map fun _ => (s.undergo op).2

/-- The state after an operation, whether it was refused or not. -/
def after (s : FlowState) (op : StateOp) : FlowState :=
  (s.undergo op).2

/-- The state after several operations, one after another. -/
def afterAll (s : FlowState) (ops : List StateOp) : FlowState :=
  ops.foldl after s

end FlowState

end CodeFlow
