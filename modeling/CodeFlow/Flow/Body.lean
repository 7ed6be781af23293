import CodeFlow.Json.Reader
import CodeFlow.Json.Writer

/-!
# Bodies

The JSON bodies that are sent to the backend and those that it sends back.
-/

namespace CodeFlow

open CodeFlow.Json (Form)

/-! ## Sent -/

/-- What is posted to log in. -/
structure LoginSubmission where
  email : String
  /-- The ciphertext of the password in base64. -/
  password : String
  loginChallenge : String
deriving DecidableEq

/-- The body that is posted to log in. -/
def LoginSubmission.toJson (s : LoginSubmission) : Json :=
  .obj [("email", .str s.email), ("password", .str s.password),
    ("loginChallenge", .str s.loginChallenge)]

/-- What is posted to register. -/
structure RegistrationSubmission where
  email : String
  /-- The ciphertext of the password in base64. -/
  password : String
  confirmPassword : String
deriving DecidableEq

/-- The body that is posted to register. -/
def RegistrationSubmission.toJson (s : RegistrationSubmission) : Json :=
  .obj [("email", .str s.email), ("password", .str s.password),
    ("confirmPassword", .str s.confirmPassword)]

/-- What is posted to redeem a code. -/
structure ExchangeRequest where
  code : String
  redirectUri : String
  clientId : String
  codeVerifier : String
deriving DecidableEq

/-- The body that is posted to redeem a code. -/
def ExchangeRequest.toJson (r : ExchangeRequest) : Json :=
  .obj [("code", .str r.code), ("redirectURI", .str r.redirectUri), ("clientID", .str r.clientId),
    ("codeVerifier", .str r.codeVerifier)]

/-! ## Received -/

/-- Where to go next. -/
structure RedirectBody where
  redirectTo : String

/-- Where to go next, in documents. -/
def RedirectBody.form : Form RedirectBody where
  shape := .record "RedirectResponse" (.required "redirect_to" .text .nil)
  ofVal := fun (redirectTo, ()) => ⟨redirectTo⟩
  toVal := fun b => (b.redirectTo, ())
  ofVal_toVal := fun _ => rfl

/-- An access token and its lifetime. -/
structure ExchangeBody where
  accessToken : String
  expiresIn : Option Int64
  expiresAt : Option String

/-- An access token in documents. -/
def ExchangeBody.form : Form ExchangeBody where
  shape := .record "TokenExchangeResponse" (.required "accessToken" .text
    (.nullable "expiresIn" .signed (.nullable "expiresAt" .text .nil)))
  ofVal := fun (accessToken, expiresIn, expiresAt, ()) => ⟨accessToken, expiresIn, expiresAt⟩
  toVal := fun b => (b.accessToken, b.expiresIn, b.expiresAt, ())
  ofVal_toVal := fun _ => rfl

/-- What the backend says when it refuses. -/
structure BackendMessage where
  message : Option String
  status : Option String
  error : Option String

namespace BackendMessage

/-- What the backend says, in documents. -/
def form : Form BackendMessage where
  shape := .record "BackendMessage" (.nullable "message" .text (.nullable "status" .text
    (.nullable "error" .text .nil)))
  ofVal := fun (message, status, error, ()) => ⟨message, status, error⟩
  toVal := fun m => (m.message, m.status, m.error, ())
  ofVal_toVal := fun _ => rfl

/-- What a body says; nothing if it is not of the form. -/
def ofBody (body : String) : BackendMessage :=
  match form.ofText body with
  | .ok m => m
  | .error _ => ⟨none, none, none⟩

/-- The most telling part. -/
def text? (m : BackendMessage) : Option String :=
  m.message.or (m.status.or m.error)

end BackendMessage

end CodeFlow
