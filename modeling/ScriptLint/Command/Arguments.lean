/-!
# Command line arguments

Arguments are read from left to right.  Options in front of the command belong to the program and
those behind it to the command; `-v` and `-c` may stand in both places, once in each, and the later
one counts.  A value follows its option as the next argument or behind an equals sign, and a short
option may also be followed by its value directly.  After `--` every argument is a path.
-/

namespace ScriptLint
namespace Command

/-- How results are shown. -/
inductive Format where
  /-- A paragraph per failing script and a summary. -/
  | text
  /-- The report as JSON. -/
  | json
  /-- A line per finding. -/
  | compact
deriving DecidableEq

/-- The format of this name. -/
def Format.ofName? (name : String) : Option Format :=
  if name = "text" then some .text
  else if name = "json" then some .json
  else if name = "compact" then some .compact
  else none

/-- Whose options are read. -/
inductive Scope where
  /-- The program itself. -/
  | program
  /-- The command that lints. -/
  | check
  /-- The command that lists the rules. -/
  | listRules
  /-- The command that writes a settings file. -/
  | init
deriving DecidableEq

/-- The command of this name. -/
def Scope.ofName? (name : String) : Option Scope :=
  if name = "check" then some .check
  else if name = "list-rules" then some .listRules
  else if name = "init" then some .init
  else none

/-- An option. -/
inductive Switch where
  /-- Tell everything. -/
  | verbose
  /-- Path of the settings. -/
  | config
  /-- Show the version. -/
  | version
  /-- How results are shown. -/
  | format
  /-- Which rules run. -/
  | rules
  /-- A pattern of paths to leave out. -/
  | exclude
  /-- Overwrite a settings file. -/
  | force
deriving DecidableEq

namespace Switch

/-- The options of a scope. -/
def all : Scope → List Switch
  | .program => [.verbose, .config, .version]
  | .check => [.verbose, .config, .format, .rules, .exclude]
  | .listRules => [.verbose, .config]
  | .init => [.verbose, .config, .force]

/-- The name behind two hyphens. -/
def long : Switch → String
  | .verbose => "verbose"
  | .config => "config"
  | .version => "version"
  | .format => "format"
  | .rules => "rules"
  | .exclude => "exclude"
  | .force => "force"

/-- The letter behind one hyphen. -/
def short? : Switch → Option Char
  | .verbose => some 'v'
  | .config => some 'c'
  | .version => some 'V'
  | .format => some 'f'
  | .exclude => some 'e'
  | .rules | .force => none

/-- The option has a value. -/
def takesValue : Switch → Bool
  | .config | .format | .rules | .exclude => true
  | .verbose | .version | .force => false

/-- The option may have this value. -/
def accepts (value : String) : Switch → Bool
  | .config => value ≠ ""
  | .format => (Format.ofName? value).isSome
  | _ => true

end Switch

/-- Why reading ends before a command is known. -/
inductive Stop where
  /-- The arguments are wrong. -/
  | usage
  /-- The version is asked for. -/
  | version
deriving DecidableEq

/-- What has been read in a scope. -/
structure Reading where
  /-- The options with their values, in order. -/
  given : List (Switch × String) := []
  /-- The option whose value is to follow. -/
  pending : Option Switch := none
  /-- The paths in order. -/
  paths : List String := []
  /-- Only paths follow. -/
  onlyPaths : Bool := false
deriving DecidableEq

namespace Reading

/-- The first value of an option. -/
def value? (reading : Reading) (switch : Switch) : Option String := reading.given.lookup switch

/-- The option is given. -/
def has (reading : Reading) (switch : Switch) : Bool := (reading.value? switch).isSome

/-- All values of an option. -/
def values (reading : Reading) (switch : Switch) : List String :=
  (reading.given.filter fun entry => entry.1 = switch).map Prod.snd

/-- Enter an option with its value.  Only patterns to leave out may be given repeatedly. -/
def enter (reading : Reading) (switch : Switch) (value : String) : Except Stop Reading :=
  if switch = .version then .error .version
  else if reading.has switch && switch ≠ .exclude then .error .usage
  else if !switch.accepts value then .error .usage
  else .ok { reading with given := reading.given ++ [(switch, value)], pending := none }

/-- Read an option by its name, with the value behind an equals sign if there is one. -/
def readLong (scope : Scope) (reading : Reading) (argument : List Char) : Except Stop Reading :=
  let name := String.ofList (argument.takeWhile (· != '='))
  let switch? := (Switch.all scope).find? fun switch => switch.long = name
  match switch?, argument.dropWhile (· != '=') with
  | none, _ => .error .usage
  | some switch, [] =>
      if switch.takesValue then .ok { reading with pending := some switch }
      else reading.enter switch ""
  | some switch, _ :: value =>
      if switch.takesValue then reading.enter switch (String.ofList value) else .error .usage

/-- Read options by their letters; what follows the letter of an option with a value is the value.
-/
def readShort (scope : Scope) : Reading → List Char → Except Stop Reading
  | reading, [] => .ok reading
  | reading, letter :: rest =>
      match (Switch.all scope).find? fun switch => switch.short? = some letter with
      | none => .error .usage
      | some switch =>
          if switch.takesValue then
            match rest with
            | [] => .ok { reading with pending := some switch }
            | '=' :: value => reading.enter switch (String.ofList value)
            | value => reading.enter switch (String.ofList value)
          else
            match reading.enter switch "" with
            | .error stop => .error stop
            | .ok reading => readShort scope reading rest

/-- Take a path. -/
def takePath (scope : Scope) (reading : Reading) (path : String) : Except Stop Reading :=
  if scope = .check ∧ path ≠ "" then .ok { reading with paths := reading.paths ++ [path] }
  else .error .usage

/-- Read one argument. -/
def read (scope : Scope) (reading : Reading) (argument : String) : Except Stop Reading :=
  if reading.onlyPaths then reading.takePath scope argument
  else
    match argument.toList, reading.pending with
    | '-' :: _ :: _, some _ => .error .usage
    | _, some switch => reading.enter switch argument
    | ['-', '-'], none => .ok { reading with onlyPaths := true }
    | '-' :: '-' :: option, none => reading.readLong scope option
    | '-' :: letter :: letters, none => reading.readShort scope (letter :: letters)
    | _, none => reading.takePath scope argument

/-- Nothing is left open at the end of the arguments. -/
def finish (reading : Reading) : Except Stop Reading :=
  if reading.pending.isSome then .error .usage else .ok reading

end Reading

/-- What a command is to do. -/
inductive Task where
  /-- Lint scripts. -/
  | check (paths : List String) (format : Format) (rules : Option String) (excludes : List String)
  /-- List the rules. -/
  | listRules
  /-- Write a settings file. -/
  | init (overwrite : Bool)
deriving DecidableEq

/-- A program call. -/
structure Invocation where
  /-- Everything is told. -/
  isVerbose : Bool
  /-- Path of the settings. -/
  settingsPath : Option String
  /-- What is to be done. -/
  task : Task
deriving DecidableEq

/-- The task of a command with what has been read for it. -/
def taskOf (reading : Reading) : Scope → Task
  | .init => .init (reading.has .force)
  | .listRules => .listRules
  | .program | .check =>
      .check
        (if reading.paths.isEmpty then ["."] else reading.paths)
        (((reading.value? .format).bind Format.ofName?).getD .text)
        (reading.value? .rules)
        (reading.values .exclude)

/-- Put together what has been read in front of a command and behind it.  A path of settings from
the environment counts where none is given, and it may not be empty in a scope that needs it. -/
def conclude (settingsPath : Option String) (outer inner : Reading) (scope : Scope) :
    Except Stop Invocation :=
  let isComplete := outer.has .config && inner.has .config
  if settingsPath = some "" && !isComplete then .error .usage
  else
    .ok
      { isVerbose := outer.has .verbose || inner.has .verbose
        settingsPath := inner.value? .config <|> outer.value? .config <|> settingsPath
        task := taskOf inner scope }

/-- Read arguments up to the command, and those behind it.  The path of settings from the
environment is known. -/
def readFrom (settingsPath : Option String) : Reading → List String → Except Stop Invocation
  | _, [] => .error .usage
  | outer, argument :: rest =>
      let isOpen := outer.pending.isSome || outer.onlyPaths
      match if isOpen then none else Scope.ofName? argument with
      | some scope => do
          let inner ← rest.foldlM (Reading.read scope) {}
          let inner ← inner.finish
          conclude settingsPath outer inner scope
      | none => do
          let outer ← outer.read .program argument
          readFrom settingsPath outer rest

/-- Read the arguments of a program call. -/
def readArguments (settingsPath : Option String) (arguments : List String) :
    Except Stop Invocation :=
  readFrom settingsPath {} arguments

end Command
end ScriptLint
