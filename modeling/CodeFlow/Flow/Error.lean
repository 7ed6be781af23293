import CodeFlow.Flow.Stage
import CodeFlow.Rsa.Oaep
import CodeFlow.Url.Host

/-!
# What goes wrong in a login

Causes of failure and what is said about each. Refused credentials are no error: they are one of
the outcomes of a login.
-/

namespace CodeFlow

/-! ## Causes -/

/-- Why no answer was received. -/
inductive NetworkFault where
  /-- The request cannot be put to the network. -/
  | refused
  /-- There is no connection to the server. -/
  | unreachable
  /-- The connection ended without an answer. -/
  | closed
  /-- The connection ended within an answer. -/
  | interrupted
deriving DecidableEq, Repr

/-- What is said about a network fault. -/
def NetworkFault.message : NetworkFault → String
  | .refused => "the request cannot be sent"
  | .unreachable => "the server cannot be reached"
  | .closed => "the connection was closed before an answer"
  | .interrupted => "the connection was closed within the answer"

/-- How a server breaks the protocol. -/
inductive ProtocolError where
  | unexpectedStatus (status : Nat) (body : String)
  | missingLocation
  | missingChallenge
  | missingCode
  | missingCookie (name : String)
  | exchangeFailed (status : Nat) (body : String)
  | providerRejected (error description : String)
  | invalidRedirect (fault : Url.Fault)
  | invalidBody (text : String)
  | timeout
deriving DecidableEq

/-- What is said about a broken protocol. -/
def ProtocolError.message : ProtocolError → String
  | .unexpectedStatus status body => s!"unexpected HTTP status {status}: {body}"
  | .missingLocation => "redirect response has no Location header"
  | .missingChallenge => "redirect location has no login_challenge parameter"
  | .missingCode => "redirect location has no code parameter"
  | .missingCookie name => s!"expected cookie {name} was not set"
  | .exchangeFailed status body => s!"token exchange failed with status {status}: {body}"
  | .providerRejected error description =>
    s!"provider rejected the request: {error} ({description})"
  | .invalidRedirect fault => s!"invalid redirect URL: {fault.message}"
  | .invalidBody text => s!"invalid response body: {text}"
  | .timeout => "request timed out"

/-- What goes wrong with keys and messages. -/
inductive CryptoError where
  | importFailed (fault : Rsa.ImportFault)
  | encryptionFailed (fault : Rsa.EncryptFault)

/-- What is said about keys and messages. -/
def CryptoError.message : CryptoError → String
  | .importFailed fault => s!"public key import failed: {fault.message}"
  | .encryptionFailed fault => s!"encryption failed: {fault.message}"

/-- What is wrong with a configuration. -/
inductive ConfigFault where
  | noClient
  | noScope
  | noTimeout
  | noSessionCookie
  | invalidUrl (field value : String) (fault : Url.Fault)
deriving DecidableEq

/-- What is said about a configuration. -/
def ConfigFault.message : ConfigFault → String
  | .noClient => "client_id must not be empty"
  | .noScope => "at least one scope is required"
  | .noTimeout => "http_timeout_seconds must be positive"
  | .noSessionCookie => "session cookie name must not be empty"
  | .invalidUrl field value fault => s!"{field} is not a valid URL ({value}): {fault.message}"

/-! ## Errors -/

/-- What ends a login or another call. -/
inductive FlowError where
  | network (step : Step) (fault : NetworkFault)
  | protocol (step : Step) (error : ProtocolError)
  | crypto (error : CryptoError)
  | config (fault : ConfigFault)
  | outOfOrder (expected actual : Stage)

namespace FlowError

/-- What is said about an error. -/
def message : FlowError → String
  | .network step fault => s!"HTTP request failed during {step.name}: {fault.message}"
  | .protocol step error => s!"Protocol error during {step.name}: {error.message}"
  | .crypto error => s!"Crypto error: {error.message}"
  | .config fault => s!"Invalid configuration: {fault.message}"
  | .outOfOrder expected actual =>
    s!"Flow step out of order: expected stage {expected.name}, found {actual.name}"

/-- The step at which an error arose, if it arose at one. -/
def step? : FlowError → Option Step
  | .network step _ => some step
  | .protocol step _ => some step
  | _ => none

end FlowError

/-- The backend refused an email and a password. -/
structure Rejection where
  message : String
deriving DecidableEq

/-- What is said about refused credentials. -/
def Rejection.text (r : Rejection) : String :=
  s!"invalid credentials: {r.message}"

end CodeFlow
