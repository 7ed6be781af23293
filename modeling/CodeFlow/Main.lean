import CodeFlow.Cli.Program
import Std.Time.DateTime.Timestamp

/-!
# The command line

Reads the surroundings and random bytes, runs the program and prints what it says. No network is
linked into it: every server is out of reach.
-/

namespace CodeFlow

open CodeFlow.Cli CodeFlow.Settings

/-- What is found at a path. -/
def entryAt (path : String) : IO (Option Entry) := do
  try
    let bytes ← IO.FS.readBinFile path
    pure (some (match Text.Utf8.toText? bytes.toList with
      | some text => .file text
      | none => .unreadable))
  catch
    | .noFileOrDirectory _ _ _ => pure none
    | _ => pure (if path = "" then none else some .unreadable)

/-- The variables of the process. -/
def processVariables : IO Dotenv.Variables := do
  try
    let bytes ← IO.FS.readBinFile "/proc/self/environ"
    let cs := (Text.Utf8.textOf bytes.toList).toList
    pure ((Text.splitOn '\x00' cs).filterMap fun v =>
      if v = [] then none
      else some (String.ofList (v.takeWhile (· ≠ '=')),
        String.ofList ((v.dropWhile (· ≠ '=')).drop 1)))
  catch _ => pure []

/-- Random bytes of a given number. -/
def randomBytes (n : Nat) : IO (Draw n) := do
  let bytes := (← IO.getRandomBytes n.toUSize).toList
  pure (Vector.ofFn fun i => bytes.getD i.val 0)

/-- Everything random in one run. -/
def randomDraws : IO Draws := do
  pure ⟨← randomBytes 32, ← randomBytes _, ← randomBytes _, ← randomBytes 32⟩

/-- Logs a warning. -/
def logWarning (w : Warning) : IO Unit := do
  let time ← Std.Time.Timestamp.now
  let fields := String.intercalate " " (w.fields.map fun f => f.1 ++ "=" ++ f.2)
  IO.eprintln s!"{time} WARN {fields}"

/-- Runs the program. -/
def runProgram (words : List String) : IO UInt32 := do
  let vars ← processVariables
  let dotenv ← entryAt Surroundings.variablesPath
  let known : Surroundings :=
    ⟨vars, fun path => if path = Surroundings.variablesPath then dotenv else none⟩
  let configFile := configPath (lookupIn known.allVariables)
  let config ← entryAt configFile
  let surroundings : Surroundings :=
    ⟨vars, fun path => if path = Surroundings.variablesPath then dotenv
      else if path = configFile then config else none⟩
  let outcome ← (program (UsageFault.programName :: words) surroundings (← randomDraws)).speak
    (fun _ => pure .unreachable) logWarning
  IO.print outcome.printed
  IO.eprint outcome.complaint
  pure outcome.exitCode.toUInt32

end CodeFlow

/-- Runs the program with the words of the command line. -/
def main (words : List String) : IO UInt32 :=
  CodeFlow.runProgram words
