/-!
# Arguments of the command line

A command stands among options: some before it, more behind it. An option takes its value from the
same word or from the next one, and what is wrong with it comes out when the next option or the end
is reached. What stands behind the command is read to its end before what stands before it is
checked.
-/

namespace CodeFlow.Cli

/-! ## Commands -/

/-- What the program is to do. -/
inductive Command where
  | login
  | register
  | verify (code : String)
  | bootstrap
deriving DecidableEq, Repr

/-- The name of a command. -/
inductive Verb where
  | login
  | register
  | verify
  | bootstrap
deriving DecidableEq, Repr

namespace Verb

/-- The commands in their order. -/
def all : List Verb := [.login, .register, .verify, .bootstrap]

/-- A command as it is written. -/
def name : Verb → String
  | .login => "login"
  | .register => "register"
  | .verify => "verify"
  | .bootstrap => "bootstrap"

/-- The command that a word names. -/
def ofName? (word : String) : Option Verb :=
  all.find? fun v => v.name = word

end Verb

/-- The word that asks for help about a command. -/
def helpWord : String := "help"

/-- The words that are commands. -/
def commandWords : List String := Verb.all.map Verb.name ++ [helpWord]

/-- What the program was called with. -/
structure Args where
  command : Command
  email : Option String
  password : Option String
  verbose : Bool
deriving DecidableEq, Repr

/-! ## Options -/

/-- An option. -/
inductive Flag where
  | email
  | password
  | code
  | verbose
  | help
  | version
deriving DecidableEq, Repr

namespace Flag

/-- The long name of an option. -/
def long : Flag → String
  | .email => "email"
  | .password => "password"
  | .code => "code"
  | .verbose => "verbose"
  | .help => "help"
  | .version => "version"

/-- The letter of an option. -/
def letter? : Flag → Option Char
  | .email => some 'e'
  | .password => some 'p'
  | .code => none
  | .verbose => some 'v'
  | .help => some 'h'
  | .version => some 'V'

/-- What the value of an option is called; none if it has no value. -/
def placeholder? : Flag → Option String
  | .email => some "EMAIL"
  | .password => some "PASSWORD"
  | .code => some "CODE"
  | _ => none

/-- An option as it is shown. -/
def shown (f : Flag) : String :=
  match f.placeholder? with
  | some p => s!"--{f.long} <{p}>"
  | none => s!"--{f.long}"

end Flag

/-- Where options stand. -/
inductive Place where
  | before
  | behind (v : Verb)
deriving DecidableEq, Repr

/-- The options that may stand somewhere. -/
def Place.flags : Place → List Flag
  | .before => [.email, .password, .verbose, .help, .version]
  | .behind .verify => [.code, .email, .password, .verbose, .help]
  | .behind _ => [.email, .password, .verbose, .help]

/-! ## What goes wrong -/

/-- Why the program is not run. -/
inductive UsageFault where
  | unknownArgument (shown : String)
  | unknownCommand (word : String)
  | missingValue (f : Flag)
  | repeated (f : Flag)
  | unneededValue (f : Flag) (value : String)
  | missingArgument (f : Flag)
  | missingCommand (program : String)
  | nothingGiven
  | help
  | version
deriving DecidableEq, Repr

namespace UsageFault

/-- The name of the program. -/
def programName : String := "cisauth"

/-- How the program is used. -/
def usage : String :=
  "Register, verify and log in users against a cisauth deployment\n\nUsage: " ++ programName ++
  " [OPTIONS] <COMMAND>\n\nCommands:\n" ++
  "  login      Run the full login flow and print the tokens\n" ++
  "  register   Create the user account\n" ++
  "  verify     Confirm an account with the code from the verification email\n" ++
  "  bootstrap  Register the user if needed, then log in\n" ++
  "  help       Print this message or the help of the given subcommand(s)\n\nOptions:\n" ++
  "  -e, --email <EMAIL>        User email (defaults to CISAUTH_USER_EMAIL)\n" ++
  "  -p, --password <PASSWORD>  User password (defaults to CISAUTH_USER_PASSWORD)\n" ++
  "  -v, --verbose              Enable debug logging\n" ++
  "  -h, --help                 Print help\n" ++
  "  -V, --version              Print version"

/-- What is said when the program is not run. -/
def message : UsageFault → String
  | .unknownArgument shown => s!"error: unexpected argument '{shown}' found"
  | .unknownCommand word => s!"error: unrecognized subcommand '{word}'"
  | .missingValue f => s!"error: a value is required for '{f.shown}' but none was supplied"
  | .repeated f => s!"error: the argument '{f.shown}' cannot be used multiple times"
  | .unneededValue f value =>
    s!"error: unexpected value '{value}' for '{f.shown}' found; no more were expected"
  | .missingArgument f =>
    s!"error: the following required arguments were not provided:\n  {f.shown}"
  | .missingCommand program =>
    s!"error: '{program}' requires a subcommand but one was not provided"
  | .nothingGiven => usage
  | .help => usage
  | .version => programName ++ " 0.1.0"

/-- The exit status: what was asked for is no failure. -/
def exitCode : UsageFault → Nat
  | .help => 0
  | .version => 0
  | _ => 2

end UsageFault

/-! ## Gathering options -/

/-- The options so far. -/
structure Gathered where
  given : List (Flag × String)
  /-- The option that came last, if its value is missing or has not been checked. -/
  pending : Option (Flag × Option String)
deriving DecidableEq, Repr

namespace Gathered

/-- No options. -/
def none : Gathered := ⟨[], Option.none⟩

/-- The value of an option. -/
def value? (g : Gathered) (f : Flag) : Option String := g.given.lookup f

/-- Adds an option, which may be given once. -/
def add (g : Gathered) (f : Flag) (value : String) : Except UsageFault Gathered :=
  if (g.value? f).isSome then .error (.repeated f)
  else .ok { g with given := (f, value) :: g.given }

/-- Checks the option that came last. -/
def settle (g : Gathered) : Except UsageFault Gathered :=
  match g.pending with
  | Option.none => .ok g
  | some (f, Option.none) => .error (.missingValue f)
  | some (f, some v) => ({ g with pending := Option.none } : Gathered).add f v

/-- Takes an option whose value is there. -/
def take (g : Gathered) (f : Flag) (value : String) : Except UsageFault Gathered := do
  let g ← g.settle
  match f with
  | .help => .error .help
  | .version => .error .version
  | f => g.add f value

/-- Takes an option whose value is still to come. -/
def await (g : Gathered) (f : Flag) : Except UsageFault Gathered := do
  let g ← g.settle
  .ok { g with pending := some (f, Option.none) }

/-- The option that still needs its value. -/
def awaiting? (g : Gathered) : Option Flag :=
  match g.pending with
  | some (f, Option.none) => some f
  | _ => Option.none

end Gathered

/-! ## Words -/

/-- What a word of the command line is by its looks. -/
inductive Token where
  /-- Two dashes: no options behind them. -/
  | escape
  /-- A long name, and a value behind an equals sign. -/
  | long (name : String) (value : Option String)
  /-- Letters behind a dash. -/
  | letters (cs : List Char)
  | plain
deriving DecidableEq, Repr

/-- What a word is. -/
def Token.of (word : String) : Token :=
  match word.toList with
  | ['-', '-'] => .escape
  | '-' :: '-' :: cs =>
    let name := String.ofList (cs.takeWhile (· ≠ '='))
    match cs.dropWhile (· ≠ '=') with
    | [] => .long name none
    | _ :: value => .long name (some (String.ofList value))
  | '-' :: c :: cs => .letters (c :: cs)
  | _ => .plain

namespace Place

/-- Takes an option by its long name. -/
def takeLong (p : Place) (g : Gathered) (name : String) (value : Option String) :
    Except UsageFault Gathered :=
  match p.flags.find? fun f => f.long = name with
  | none => .error (.unknownArgument ("--" ++ name))
  | some f =>
    match f.placeholder?, value with
    | some _, some v => g.take f v
    | some _, none => g.await f
    | none, some v => .error (.unneededValue f v)
    | none, none => g.take f ""

/-- Takes options by their letters; behind a letter whose option has a value, the rest is the
value. -/
def takeLetters (p : Place) (g : Gathered) : List Char → Except UsageFault Gathered
  | [] => .ok g
  | c :: cs =>
    match p.flags.find? fun f => f.letter? = some c with
    | none => .error (.unknownArgument (String.ofList ['-', c]))
    | some f =>
      match f.placeholder?, cs with
      | some _, [] => g.await f
      | some _, '=' :: value => g.take f (String.ofList value)
      | some _, value => g.take f (String.ofList value)
      | none, cs =>
        match g.take f "" with
        | .error fault => .error fault
        | .ok g => p.takeLetters g cs

/-- What is wrong with a word that is no option and no value. -/
def stray (p : Place) (word : String) : UsageFault :=
  match p with
  | .before => .unknownCommand word
  | .behind _ => .unknownArgument word

/-- What is wrong with a word behind two dashes. -/
def strayBehindEscape (p : Place) (word : String) : UsageFault :=
  if commandWords.contains word then .unknownArgument word else p.stray word

/-- A word that is a command where a command may stand. -/
def isCommand (p : Place) (word : String) : Bool :=
  p == .before && commandWords.contains word

/-- Gathers options up to a command or to the end, with the words from the command on. -/
def gather (p : Place) : Gathered → List String → Except UsageFault (Gathered × List String)
  | g, [] => .ok (g, [])
  | g, word :: words =>
    match Token.of word with
    -- nothing may stand behind two dashes, for no command takes words
    | .escape =>
      match words with
      | [] => .ok (g, [])
      | next :: _ => .error (p.strayBehindEscape next)
    | .long name value =>
      match p.takeLong g name value with
      | .error fault => .error fault
      | .ok g => p.gather g words
    | .letters cs =>
      match p.takeLetters g cs with
      | .error fault => .error fault
      | .ok g => p.gather g words
    | .plain =>
      match g.awaiting? with
      -- the word is the value; whether it may be given is seen when the option is settled
      | some f => p.gather { g with pending := some (f, some word) } words
      | none => if p.isCommand word then .ok (g, word :: words) else .error (p.stray word)

end Place

/-! ## The whole command line -/

/-- What comes of asking for help about words, of which the first is one of some. -/
def helpAbout : List String → List String → UsageFault
  | _, [] => .help
  | known, word :: words => if known.contains word then helpAbout [] words else .unknownCommand word

/-- The command of a name with what was given behind it. -/
def commandOf (g : Gathered) : Verb → Except UsageFault Command
  | .login => .ok .login
  | .register => .ok .register
  | .bootstrap => .ok .bootstrap
  | .verify =>
    match g.value? .code with
    | some code => .ok (.verify code)
    | none => .error (.missingArgument .code)

/-- What a call asks for with options before and behind the command. Those behind win. -/
def argsOf (command : Command) (before behind : Gathered) : Args where
  command := command
  email := (behind.value? .email).or (before.value? .email)
  password := (behind.value? .password).or (before.value? .password)
  verbose := (behind.value? .verbose).isSome || (before.value? .verbose).isSome

/-- Reads the words behind a command, then checks the options before it. -/
def parseBehind (before : Gathered) (v : Verb) (words : List String) : Except UsageFault Args := do
  let (behind, _) ← (Place.behind v).gather Gathered.none words
  let behind ← behind.settle
  let command ← commandOf behind v
  -- only now is an option before the command found to be repeated or without its value
  let before ← before.settle
  .ok (argsOf command before behind)

/-- The name of a program by its path. -/
def programOf (path : String) : String :=
  let parts := ((path.toList.splitBy fun a b => a != '/' && b != '/').map String.ofList).filter
    fun part => part != "." && !part.toList.all (· == '/')
  match parts.getLast? with
  | some ".." => UsageFault.programName
  | some name => name
  | none => UsageFault.programName

/-- Reads a command line, which begins with the path of the program. -/
def Args.parse (argv : List String) : Except UsageFault Args :=
  match Place.before.gather Gathered.none (argv.drop 1) with
  | .error fault => .error fault
  | .ok (before, []) =>
    match before.settle with
    | .error fault => .error fault
    | .ok g =>
      if g.given = [] then .error .nothingGiven
      else .error (.missingCommand (programOf (argv.head?.getD "")))
  | .ok (before, word :: words) =>
    match Verb.ofName? word with
    | some v => parseBehind before v words
    | none => .error (helpAbout commandWords words)

end CodeFlow.Cli
