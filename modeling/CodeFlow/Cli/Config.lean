import CodeFlow.Flow.Attempt
import CodeFlow.Settings.Decode
import CodeFlow.Settings.Environment
import CodeFlow.Settings.File

/-!
# The configuration of the program

Ten settings, from four layers: what is usual, a file, variables that name a setting by its place,
and variables with names of their own. Later layers win, setting by setting. The result is checked.
-/

namespace CodeFlow.Cli

/-! ## Settings -/

/-- The settings of the program. -/
structure Config where
  /-- The address of the provider. -/
  oauthUrl : String
  clientId : String
  redirectUri : String
  /-- The published key by which passwords are encrypted. -/
  publicKey : String
  scopes : List String
  timeoutSeconds : UInt64
  /-- The address of the backend. -/
  backendUrl : String
  email : Option String
  password : Option String
  /-- A level of logging, or a filter that says more. -/
  logLevel : String
deriving DecidableEq

namespace Config

/-- The settings that are usual. -/
def usual : Config where
  oauthUrl := "http://localhost:3000"
  clientId := ""
  redirectUri := "http://localhost:3000/callback"
  publicKey := ""
  scopes := FlowConfig.usualScopes
  timeoutSeconds := FlowConfig.usualTimeout
  backendUrl := "http://localhost:3000/user-service/v1"
  email := none
  password := none
  logLevel := "info"

/-- How the settings of the provider and the client are grouped. -/
def oauthShape : Json.Shape :=
  .record "OAuthConfig" (.defaulted "url" .text (.defaulted "client_id" .text
    (.defaulted "redirect_uri" .text (.defaulted "public_key" .text
      (.defaulted "scopes" (.list .text) (.defaulted "timeout_seconds" (.unsigned "u64") .nil))))))

/-- How the setting of the backend is grouped. -/
def backendShape : Json.Shape :=
  .record "BackendConfig" (.defaulted "base_url" .text .nil)

/-- How the settings of the user are grouped. -/
def userShape : Json.Shape :=
  .record "UserConfig" (.defaulted "email" (.optional .text)
    (.defaulted "password" (.optional .text) .nil))

/-- How the setting of the log is grouped. -/
def loggingShape : Json.Shape :=
  .record "LoggingConfig" (.defaulted "level" .text .nil)

/-- Settings in documents. A setting or a group that is left out is the usual one. -/
def form : Json.Form Config where
  shape := .record "AppConfig" (.defaulted "oauth" oauthShape (.defaulted "backend" backendShape
    (.defaulted "user" userShape (.defaulted "logging" loggingShape .nil))))
  ofVal := fun (oauth, backend, user, logging, ()) =>
    let (url, clientId, redirectUri, publicKey, scopes, timeout, ()) :=
      oauth.getD (none, none, none, none, none, none, ())
    let (backendUrl, ()) := backend.getD (none, ())
    let (email, password, ()) := user.getD (none, none, ())
    let (level, ()) := logging.getD (none, ())
    { oauthUrl := url.getD usual.oauthUrl
      clientId := clientId.getD usual.clientId
      redirectUri := redirectUri.getD usual.redirectUri
      publicKey := publicKey.getD usual.publicKey
      scopes := scopes.getD usual.scopes
      timeoutSeconds := timeout.getD usual.timeoutSeconds
      backendUrl := backendUrl.getD usual.backendUrl
      email := email.getD usual.email
      password := password.getD usual.password
      logLevel := level.getD usual.logLevel }
  toVal := fun c =>
    (some (some c.oauthUrl, some c.clientId, some c.redirectUri, some c.publicKey, some c.scopes,
        some c.timeoutSeconds, ()),
      some (some c.backendUrl, ()), some (some c.email, some c.password, ()),
      some (some c.logLevel, ()), ())
  ofVal_toVal := fun _ => rfl

/-! ## Checks -/

/-- What is wrong with settings. -/
inductive Fault where
  | noUrl
  | noClient
  | noRedirect
  | noKey
  | noTimeout
  | noBackend
  | badLevel (level : String)
deriving DecidableEq

/-- The levels of logging. -/
def levels : List String := ["trace", "debug", "info", "warn", "error"]

/-- What is said about settings. -/
def Fault.message : Fault → String
  | .noUrl => "OAuth URL is not set (CISAUTH_OAUTH_URL)"
  | .noClient => "OAuth client id is not set (CISAUTH_UI_WEB_CLIENT_ID)"
  | .noRedirect => "OAuth redirect URI is not set (CISAUTH_OAUTH_REDIRECT_URI)"
  | .noKey => "Password encryption key is not set (CISAUTH_UI_WEB_PUBLIC_KEY)"
  | .noTimeout => "HTTP timeout must be positive"
  | .noBackend => "Backend base URL cannot be empty"
  | .badLevel level =>
    s!"Invalid log level '{level}'. Must be one of: [" ++
      String.intercalate ", " (levels.map Text.quoted) ++ "]"

/-- The level is a filter that says more than a level. -/
def hasFilter (c : Config) : Bool :=
  c.logLevel.toList.any fun ch => ch == '=' || ch == ','

/-- The level is one of the levels, in letters of either case. No letter beyond ASCII has a small
form that occurs in them. -/
def hasLevel (c : Config) : Bool :=
  levels.contains (String.ofList (c.logLevel.toList.map Char.toLower))

/-- Checks settings; the first fault counts. -/
def check (c : Config) : Except Fault Unit :=
  if c.oauthUrl = "" then .error .noUrl
  else if c.clientId = "" then .error .noClient
  else if c.redirectUri = "" then .error .noRedirect
  else if c.publicKey = "" then .error .noKey
  else if c.timeoutSeconds = 0 then .error .noTimeout
  else if c.backendUrl = "" then .error .noBackend
  else if c.hasFilter || c.hasLevel then .ok ()
  else .error (.badLevel c.logLevel)

/-! ## What follows from settings -/

/-- The configuration of logins. -/
def flowConfig (c : Config) : FlowConfig :=
  { FlowConfig.new c.oauthUrl c.clientId c.redirectUri c.publicKey (Endpoints.ofBase c.backendUrl)
      with scopes := c.scopes, httpTimeoutSeconds := c.timeoutSeconds }

/-- Credentials, each part from what is given here or else from the settings; both are needed. -/
def credentialsWith (c : Config) (email password : Option String) : Option Credentials :=
  match email.or c.email, password.or c.password with
  | some email, some password => some ⟨email, password⟩
  | _, _ => none

/-- The credentials in the settings. -/
def credentials (c : Config) : Option Credentials :=
  c.credentialsWith none none

/-- A filter by which this program and its logins are logged from a level on. -/
def filterOf (level : String) : String :=
  s!"cisauth_cli={level},cisauth_login_flow={level},warn"

/-- What is logged. -/
def logFilter (c : Config) : String :=
  if c.hasFilter then c.logLevel else filterOf c.logLevel

end Config

/-! ## Loading -/

/-- Why there are no settings. -/
inductive LoadFault where
  /-- The file cannot be read. -/
  | unreadable
  /-- A setting has a value of another kind. -/
  | unfitting
  | badTimeout (fault : Decimal.WholeFault)
  | invalid (fault : Config.Fault)
deriving DecidableEq

/-- What is said when there are no settings. -/
def LoadFault.message : LoadFault → String
  | .unreadable => "Failed to build configuration"
  | .unfitting => "Failed to deserialize configuration"
  | .badTimeout fault => s!"Invalid CISAUTH_HTTP_TIMEOUT_SECONDS value: {fault.message}"
  | .invalid fault => fault.message

/-- A variable by its name. -/
abbrev Lookup := String → Option String

/-- The lookup among some variables. -/
def lookupIn (vars : List (String × String)) : Lookup :=
  fun name => vars.lookup name

namespace Config

/-- The settings with those that have variables with names of their own. -/
def withVariables (c : Config) (lookup : Lookup) : Except LoadFault Config :=
  let timeout : Except LoadFault UInt64 :=
    match lookup "CISAUTH_HTTP_TIMEOUT_SECONDS" with
    | none => .ok c.timeoutSeconds
    | some s => (Decimal.readUnsigned s).mapError .badTimeout
  timeout.map fun timeoutSeconds =>
    { c with
      oauthUrl := (lookup "CISAUTH_OAUTH_URL").getD c.oauthUrl
      clientId := (lookup "CISAUTH_UI_WEB_CLIENT_ID").getD c.clientId
      redirectUri := (lookup "CISAUTH_OAUTH_REDIRECT_URI").getD c.redirectUri
      publicKey := (lookup "CISAUTH_UI_WEB_PUBLIC_KEY").getD c.publicKey
      email := (lookup "CISAUTH_USER_EMAIL").or c.email
      password := (lookup "CISAUTH_USER_PASSWORD").or c.password
      logLevel := (lookup "RUST_LOG").getD c.logLevel
      timeoutSeconds }

/-- What the names of variables begin with that name a setting by its place. -/
def mark : String := "cisauth__"

/-- The settings that are lists. -/
def lists : List String := ["oauth.scopes"]

/-- The settings of a file, where there is one, and of variables that name a setting by its place. -/
def ofSources (path : String) (entry : Option Settings.Entry) (vars : List (String × String)) :
    Except LoadFault Config :=
  let file : Option Settings.Source :=
    match entry with
    | none => some []
    | some e => e.source? path
  match file with
  | none => .error .unreadable
  | some source =>
    let table := Settings.layered [source, Settings.ofEnvironment mark lists vars]
    match Settings.decode? form table with
    | none => .error .unfitting
    | some c => .ok c

end Config

/-- Settings, and the file that they were read from if there was one. -/
structure Loaded where
  config : Config
  source : Option String

/-- Loads the settings and checks them. -/
def Config.load (path : String) (entry : Option Settings.Entry)
    (vars : List (String × String)) (lookup : Lookup) : Except LoadFault Loaded :=
  match Config.ofSources path entry vars with
  | .error fault => .error fault
  | .ok c =>
    match c.withVariables lookup with
    | .error fault => .error fault
    | .ok c =>
      match c.check with
      | .error fault => .error (.invalid fault)
      | .ok () => .ok ⟨c, entry.map fun _ => path⟩

/-- The path of the file, among variables. -/
def configPath (lookup : Lookup) : String :=
  (lookup "CISAUTH_CONFIG_FILE").getD "cisauth.toml"

end CodeFlow.Cli
