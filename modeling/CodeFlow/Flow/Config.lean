import CodeFlow.Flow.Error
import CodeFlow.Json.Reader
import CodeFlow.Text.Blank
import CodeFlow.Url.Parser

/-!
# The configuration of logins

Where the provider and the backend are, which client asks, and which cookies to look for.
-/

namespace CodeFlow

/-! ## Endpoints -/

/-- A text without the slashes at its end. -/
def withoutFinalSlashes (s : String) : String :=
  String.ofList (s.toList.reverse.dropWhile (· = '/')).reverse

/-- The addresses of the backend. -/
structure Endpoints where
  login : String
  register : String
  verify : String
  tokenExchange : String
deriving DecidableEq

namespace Endpoints

/-- The addresses below a common one. -/
def ofBase (base : String) : Endpoints :=
  let base := withoutFinalSlashes base
  ⟨base ++ "/login", base ++ "/register", base ++ "/verify", base ++ "/token/exchange"⟩

/-- The addresses with the names of their fields. -/
def named (e : Endpoints) : List (String × String) :=
  [("login", e.login), ("register", e.register), ("verify", e.verify),
    ("token_exchange", e.tokenExchange)]

/-- Endpoints in documents. -/
def form : Json.Form Endpoints where
  shape := .record "BackendEndpoints" (.required "login" .text (.required "register" .text
    (.required "verify" .text (.required "token_exchange" .text .nil))))
  ofVal := fun (login, register, verify, tokenExchange, ()) =>
    ⟨login, register, verify, tokenExchange⟩
  toVal := fun e => (e.login, e.register, e.verify, e.tokenExchange, ())
  ofVal_toVal := fun _ => rfl

end Endpoints

/-! ## Names of cookies -/

/-- The names by which cookies are found. -/
structure CookieNames where
  /-- What the name of the provider's session cookie begins with. -/
  sessionPrefix : String
  /-- What the name of the provider's consent cookie begins with. -/
  consentPrefix : String
  /-- The name of the backend's session cookie. -/
  session : String
  /-- How many cookies usually come before the backend's session cookie. -/
  sessionPosition : Option UInt64
deriving DecidableEq

namespace CookieNames

/-- The names that are usual. -/
def usual : CookieNames :=
  ⟨"oauth2_authentication_session", "oauth2_consent_csrf", "session", some 4⟩

/-- Names of cookies in documents; a name that is left out is the usual one. -/
def form : Json.Form CookieNames where
  shape := .record "CookieNames" (.defaulted "authentication_session_prefix" .text
    (.defaulted "consent_prefix" .text (.defaulted "session" .text
      (.defaulted "session_position" (.optional (.unsigned "usize")) .nil))))
  ofVal := fun (sessionPrefix, consentPrefix, session, sessionPosition, ()) =>
    ⟨sessionPrefix.getD usual.sessionPrefix, consentPrefix.getD usual.consentPrefix,
      session.getD usual.session, sessionPosition.getD usual.sessionPosition⟩
  toVal := fun n =>
    (some n.sessionPrefix, some n.consentPrefix, some n.session, some n.sessionPosition, ())
  ofVal_toVal := fun _ => rfl

end CookieNames

/-! ## The whole -/

/-- What a login has to know about its surroundings. -/
structure FlowConfig where
  oauthBaseUrl : String
  clientId : String
  redirectUri : String
  scopes : List String
  /-- The published key of the backend. -/
  publicKey : String
  backend : Endpoints
  cookies : CookieNames
  httpTimeoutSeconds : UInt64
deriving DecidableEq

namespace FlowConfig

/-- The scopes that are usual. -/
def usualScopes : List String := ["offline_access", "openid"]

/-- The time limit that is usual. -/
def usualTimeout : UInt64 := 30

/-- The path of the authorization endpoint. -/
def authorizePath : String := "/oauth2/auth"

/-- A configuration with all that is usual. -/
def new (oauthBaseUrl clientId redirectUri publicKey : String) (backend : Endpoints) : FlowConfig :=
  { oauthBaseUrl, clientId, redirectUri, publicKey, backend
    scopes := usualScopes
    cookies := .usual
    httpTimeoutSeconds := usualTimeout }

/-- The address of the authorization endpoint. -/
def authorizeEndpoint (c : FlowConfig) : String :=
  withoutFinalSlashes c.oauthBaseUrl ++ authorizePath

/-- The scopes with a space between each two. -/
def scopeParameter (c : FlowConfig) : String :=
  String.intercalate " " c.scopes

/-- The addresses with the names of their fields, in the order in which they are checked. -/
def addresses (c : FlowConfig) : List (String × String) :=
  ("oauth_base_url", c.oauthBaseUrl) :: ("redirect_uri", c.redirectUri) :: c.backend.named

/-- Checks addresses in their order. -/
def checkAddresses : List (String × String) → Except ConfigFault Unit
  | [] => .ok ()
  | (field, value) :: rest =>
    match Url.parse value with
    | .ok _ => checkAddresses rest
    | .error fault => .error (.invalidUrl field value fault)

/-- Checks a configuration; the first fault counts. -/
def check (c : FlowConfig) : Except ConfigFault Unit :=
  if Text.strip c.clientId = "" then .error .noClient
  else if c.scopes = [] then .error .noScope
  else if c.httpTimeoutSeconds = 0 then .error .noTimeout
  else if c.cookies.session = "" then .error .noSessionCookie
  else checkAddresses c.addresses

/-- Configurations in documents. -/
def form : Json.Form FlowConfig where
  shape := .record "FlowConfig" (.required "oauth_base_url" .text (.required "client_id" .text
    (.required "redirect_uri" .text (.defaulted "scopes" (.list .text)
      (.required "public_key" .text (.required "backend" Endpoints.form.shape
        (.defaulted "cookies" CookieNames.form.shape
          (.defaulted "http_timeout_seconds" (.unsigned "u64") .nil))))))))
  ofVal := fun (oauthBaseUrl, clientId, redirectUri, scopes, publicKey, backend, cookies,
      httpTimeoutSeconds, ()) =>
    { oauthBaseUrl, clientId, redirectUri, publicKey
      scopes := scopes.getD usualScopes
      backend := Endpoints.form.ofVal backend
      cookies := (cookies.map CookieNames.form.ofVal).getD .usual
      httpTimeoutSeconds := httpTimeoutSeconds.getD usualTimeout }
  toVal := fun c => (c.oauthBaseUrl, c.clientId, c.redirectUri, some c.scopes, c.publicKey,
    Endpoints.form.toVal c.backend, some (CookieNames.form.toVal c.cookies),
    some c.httpTimeoutSeconds, ())
  ofVal_toVal := fun _ => rfl

end FlowConfig

end CodeFlow
