import CodeFlow.Cli.Run
import CodeFlow.Settings.Dotenv

/-!
# The program

What the program prints and how it ends, from its command line and its surroundings. It is a
dialogue with the servers; reading and writing is all that is left to the outer layer.
-/

namespace CodeFlow.Cli

open CodeFlow.Settings

/-- What the program is started in. -/
structure Surroundings where
  vars : Dotenv.Variables
  /-- What is found at a path; nothing if there is nothing. -/
  entry? : String → Option Entry

namespace Surroundings

/-- The file that gives values to variables. -/
def variablesPath : String := ".env"

/-- The variables with those that the file adds. -/
def allVariables (s : Surroundings) : Dotenv.Variables :=
  match s.entry? variablesPath with
  | some (.file text) => Dotenv.load text s.vars
  | _ => s.vars

/-- The settings. -/
def load (s : Surroundings) : Except LoadFault Loaded :=
  let vars := s.allVariables
  let path := configPath (lookupIn vars)
  Config.load path (s.entry? path) vars (lookupIn vars)

end Surroundings

/-- How the program ends. -/
structure Outcome where
  /-- What it prints. -/
  printed : String
  /-- What it says about a failure. -/
  complaint : String
  exitCode : Nat
deriving DecidableEq

namespace Outcome

/-- The end of a run. -/
def ofResult : Except CliError Report → Outcome
  | .ok report => ⟨report.text ++ "\n", "", 0⟩
  | .error e => ⟨"", s!"❌ Error: {e.message}\n", e.exitCode⟩

/-- The end without settings. -/
def ofLoadFault (fault : LoadFault) : Outcome :=
  ⟨"", s!"❌ Error: {fault.message}\n", (CliError.config fault).exitCode⟩

/-- The end where the command line asks for no run. -/
def ofUsageFault (fault : UsageFault) : Outcome :=
  if fault.exitCode = 0 then ⟨fault.message ++ "\n", "", 0⟩
  else ⟨"", fault.message ++ "\n", fault.exitCode⟩

end Outcome

/-- The program as a whole. -/
def program (argv : List String) (s : Surroundings) (d : Draws) : Dialogue Outcome :=
  match Args.parse argv with
  | .error fault => pure (.ofUsageFault fault)
  | .ok args =>
    -- the command line is read before the settings, so that help needs none
    match s.load with
    | .error fault => pure (.ofLoadFault fault)
    | .ok loaded => do
      let result ← (args.run loaded.config d).run
      pure (.ofResult result)

end CodeFlow.Cli
