/-!
# Stages and steps of a login

A login passes through stages, one after another, until it ends in one of three ways. Its steps
are the requests it makes; two more steps belong to registration.
-/

namespace CodeFlow

/-- How far a login has come. -/
inductive Stage where
  | init
  | authorized
  | credentialsSubmitted
  | consented
  | tokenExchanged
  /-- The credentials were refused. -/
  | rejected
  | failed (reason : String)
deriving DecidableEq, Repr

namespace Stage

/-- The login is over. -/
def isTerminal : Stage → Bool
  | .tokenExchanged => true
  | .rejected => true
  | .failed _ => true
  | _ => false

/-- The name of a stage. -/
def name : Stage → String
  | .init => "INIT"
  | .authorized => "AUTHORIZED"
  | .credentialsSubmitted => "CREDENTIALS_SUBMITTED"
  | .consented => "CONSENTED"
  | .tokenExchanged => "TOKEN_EXCHANGED"
  | .rejected => "REJECTED"
  | .failed reason => s!"FAILED({reason})"

end Stage

/-- The request that was being made. -/
inductive Step where
  | authorize
  | submitLogin
  | acceptLogin
  | fetchConsent
  | acceptConsent
  | tokenExchange
  | register
  | verifyAccount
deriving DecidableEq, Repr

namespace Step

/-- The name of a step. -/
def name : Step → String
  | .authorize => "authorize"
  | .submitLogin => "submit-login"
  | .acceptLogin => "accept-login"
  | .fetchConsent => "fetch-consent"
  | .acceptConsent => "accept-consent"
  | .tokenExchange => "token-exchange"
  | .register => "register"
  | .verifyAccount => "verify-account"

end Step

end CodeFlow
