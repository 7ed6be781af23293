import CodeFlow.Cli.Arguments
import CodeFlow.Cli.Config
import CodeFlow.Json.Writer

/-!
# Running a command

Each command is a dialogue that ends in a report or in an error, and the exit status tells which: a
refusal of the credentials, a lack of settings or credentials, and any other failure differ.
-/

namespace CodeFlow.Cli

/-! ## Results -/

/-- What a command that succeeds has to say. -/
inductive Report where
  | authenticated (tokens : Tokens)
  | registered
  | alreadyRegistered (message : String)
  | verified
deriving DecidableEq

namespace Report

/-- A report as a document. -/
def toJson : Report → Json
  | .authenticated tokens =>
    .obj [("result", .str "authenticated"), ("tokens", Tokens.form.toJson tokens)]
  | .registered => .obj [("result", .str "registered")]
  | .alreadyRegistered message =>
    .obj [("result", .str "already_registered"), ("message", .str message)]
  | .verified => .obj [("result", .str "verified")]

/-- A report as it is printed. -/
def text (r : Report) : String := r.toJson.indented

/-- The report on a registration. -/
def ofRegistration : RegistrationOutcome → Report
  | .created => .registered
  | .alreadyRegistered message => .alreadyRegistered message

end Report

/-- What ends a command. -/
inductive CliError where
  | config (fault : LoadFault)
  | noCredentials
  | invalidCredentials (message : String)
  | flow (e : FlowError)

namespace CliError

/-- What is said about an error. -/
def message : CliError → String
  | .config fault => s!"Configuration error: {fault.message}"
  | .noCredentials =>
    "No credentials configured (set CISAUTH_USER_EMAIL and CISAUTH_USER_PASSWORD or pass " ++
      "--email/--password)"
  | .invalidCredentials m => s!"Invalid credentials: {m}"
  | .flow e => e.message

/-- The exit status. -/
def exitCode : CliError → Nat
  | .flow _ => 1
  | .invalidCredentials _ => 2
  | .config _ => 3
  | .noCredentials => 3

end CliError

/-! ## Commands -/

/-- The random bytes for one run. -/
structure Draws where
  /-- For the password of a registration. -/
  registration : Draw 32
  login : LoginDraws

/-- A dialogue that may break off with an error. -/
abbrev Run := ExceptT CliError Dialogue

namespace Run

/-- A session in which errors are those of logins. -/
def ofSession {α : Type} (s : Session α) : Run α :=
  ExceptT.adapt CliError.flow s

/-- A value, or the end. -/
def ofExcept {α : Type} (e : Except CliError α) : Run α := ExceptT.mk (pure e)

end Run

namespace Args

/-- The credentials on the command line and in the settings. -/
def credentials (a : Args) (c : Config) : Except CliError Credentials :=
  match c.credentialsWith a.email a.password with
  | some credentials => .ok credentials
  | none => .error .noCredentials

/-- What is logged. -/
def logFilter (a : Args) (c : Config) : String :=
  if a.verbose then Config.filterOf "debug" else c.logFilter

end Args

/-- The flow of the settings. -/
def openFlow (c : Config) : Except CliError LoginFlow :=
  (LoginFlow.ofConfig c.flowConfig).mapError .flow

/-- What a login amounts to. -/
def reportOf : Except FlowError LoginOutcome → Except CliError Report
  | .ok (.authenticated tokens) => .ok (.authenticated tokens)
  | .ok (.invalidCredentials r) => .error (.invalidCredentials r.message)
  | .error e => .error (.flow e)

/-- Logs a user in. -/
def logIn (f : LoginFlow) (d : Draws) (c : Credentials) : Run Report := ExceptT.mk do
  let (result, _) ← f.login d.login c
  pure (reportOf result)

/-- Registers a user. -/
def signUp (f : LoginFlow) (d : Draws) (c : Credentials) : Run RegistrationOutcome :=
  Run.ofSession (f.register d.registration c)

/-- Says that a user who exists is logged in. -/
def announce : RegistrationOutcome → Dialogue Unit
  | .created => pure ()
  | .alreadyRegistered message => Dialogue.log (.loggingIn message)

/-- Runs a command. Credentials are looked for before the settings are checked for logins. -/
def Args.run (a : Args) (c : Config) (d : Draws) : Run Report :=
  match a.command with
  | .login => do
    let credentials ← Run.ofExcept (a.credentials c)
    let f ← Run.ofExcept (openFlow c)
    logIn f d credentials
  | .register => do
    let credentials ← Run.ofExcept (a.credentials c)
    let f ← Run.ofExcept (openFlow c)
    let outcome ← signUp f d credentials
    pure (.ofRegistration outcome)
  | .verify code => do
    let f ← Run.ofExcept (openFlow c)
    Run.ofSession (f.verifyAccount code)
    pure .verified
  | .bootstrap => do
    let credentials ← Run.ofExcept (a.credentials c)
    let f ← Run.ofExcept (openFlow c)
    let outcome ← signUp f d credentials
    ExceptT.lift (announce outcome)
    logIn f d credentials

end CodeFlow.Cli
