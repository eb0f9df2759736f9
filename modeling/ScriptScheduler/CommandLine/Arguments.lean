import ScriptScheduler.Decimal.Literal

/-!
# Command line arguments

The program has two commands, `run` with program files and `config`, and two options that may
stand before or after the command. An option is given as `--name value` or `--name=value`, at most
once on each side of the command; the one after the command wins. After `--` no argument is an
option.

Arguments are read from left to right, and the first fault that is found is the one reported. A
value in the argument after its option, and a row of files, are looked at only once they are
complete: when another known option or a positional argument of another kind follows, or at the end
of their side of the command. The end of the side before the command comes last of all. An unknown
argument is found at once.
-/

namespace ScriptScheduler

namespace CommandLine

/-- What the program is asked to do. -/
inductive Command where
  /-- Run program files, for a limited number of ticks if one is given. -/
  | run (files : List String) (maxTicks : Option Nat)
  /-- Show the configuration. -/
  | config
  deriving DecidableEq

/-- The arguments of the program. -/
structure Arguments where
  config : Option String
  log : Option String
  command : Command
  deriving DecidableEq

/-- Why arguments are refused, or that help is asked for. -/
inductive UsageError where
  | displayHelp
  | helpOnMissingCommand
  | missingCommand
  | invalidCommand
  | unknownArgument
  | missingFiles
  | invalidValue
  | valueValidation
  | repeatedOption
  | tooManyValues
  deriving DecidableEq

/-! ### Options -/

/-- The options of the program. -/
inductive OptionName where
  | config
  | log
  | maxTicks
  deriving DecidableEq

/-- The name of an option. -/
def OptionName.name : OptionName → String
  | .config => "config"
  | .log => "log"
  | .maxTicks => "max-ticks"

/-- The options that may stand on both sides of the command. -/
def sharedOptions : List OptionName := [.config, .log]

/-- The options that may stand after `run`. -/
def runOptions : List OptionName := sharedOptions ++ [.maxTicks]

/-- The name of the option that asks for help, and its letter. -/
def helpName : String := "help"

/-- The letter of the option that asks for help. -/
def helpLetter : Char := 'h'

/-- An argument as it looks. -/
inductive Word where
  /-- The mark that no option follows. -/
  | separator
  /-- `--name`, or `--name=value`. -/
  | long (name : String) (value : Option String)
  /-- One or more letters after a single dash. -/
  | short (letters : List Char)
  | plain (text : String)

/-- How an argument looks. A single dash is a plain argument. -/
def Word.ofArgument (argument : String) : Word :=
  match argument.toList with
  | ['-', '-'] => .separator
  | '-' :: '-' :: rest =>
    let name := String.ofList (rest.takeWhile (· ≠ '='))
    match rest.dropWhile (· ≠ '=') with
    | _ :: value => .long name (some (String.ofList value))
    | [] => .long name none
  | '-' :: c :: rest => .short (c :: rest)
  | _ => .plain argument

/-! ### What has been read -/

/-- The values read on one side of the command. -/
structure Found where
  config : Option String := none
  log : Option String := none
  maxTicks : Option Nat := none
  files : List String := []
  deriving DecidableEq

/-- Notes the value of an option. -/
def Found.set (found : Found) (option : OptionName) (value : String) : Except UsageError Found :=
  match option with
  | .config =>
    if found.config.isSome then .error .repeatedOption
    else if value.isEmpty then .error .invalidValue
    else .ok { found with config := some value }
  | .log =>
    if found.log.isSome then .error .repeatedOption else .ok { found with log := some value }
  | .maxTicks =>
    if found.maxTicks.isSome then .error .repeatedOption
    else
      match natOfText? value with
      | some ticks => .ok { found with maxTicks := some ticks }
      | none => .error .valueValidation

/-- Notes files. -/
def Found.addFiles (found : Found) (files : List String) : Except UsageError Found :=
  if files.any String.isEmpty then .error .invalidValue
  else .ok { found with files := found.files ++ files }

/-- What is still to be looked at. -/
inductive Pending where
  | nothing
  /-- An option, with its value once that has been met. -/
  | option (option : OptionName) (value : Option String)
  | files (files : List String)

/-- The reading of one side of the command. -/
structure Side where
  found : Found := {}
  pending : Pending := .nothing

namespace Side

/-- Looks at what is still to be looked at. -/
def settle (side : Side) : Except UsageError Found :=
  match side.pending with
  | .nothing => .ok side.found
  | .option _ none => .error .invalidValue
  | .option option (some value) => side.found.set option value
  | .files files => side.found.addFiles files

/-- The option whose value the next argument may be. -/
def awaiting? (side : Side) : Option OptionName :=
  match side.pending with
  | .option option none => some option
  | _ => none

/-- Reads an option in its long form, of which some are known. -/
def readLong (options : List OptionName) (name : String) (value : Option String) (side : Side) :
    Except UsageError Side :=
  match options.find? (fun o => o.name = name), value with
  | some option, some value => do
    let found ← side.settle
    let found ← found.set option value
    .ok { found := found }
  | some option, none => do
    let found ← side.settle
    .ok { found := found, pending := .option option none }
  | none, value =>
    if name ≠ helpName then .error .unknownArgument
    else if value.isSome then .error .tooManyValues
    else do
      let _ ← side.settle
      .error .displayHelp

/-- Reads letters after a single dash. The only known letter asks for help. -/
def readShort {α : Type} (letters : List Char) (side : Side) : Except UsageError α :=
  if letters.head? ≠ some helpLetter then .error .unknownArgument
  else do
    let _ ← side.settle
    .error .displayHelp

/-- Reads a file. -/
def readFile (file : String) (side : Side) : Except UsageError Side :=
  match side.pending with
  | .files files => .ok { side with pending := .files (files ++ [file]) }
  | _ => do
    let found ← side.settle
    .ok { found := found, pending := .files [file] }

/-- Reads a plain argument as a value, if an option awaits one, and otherwise with `read`. -/
def readPlain {α : Type} (text : String) (read : Side → Except UsageError α)
    (goOn : Side → Except UsageError α) (side : Side) : Except UsageError α :=
  match side.awaiting? with
  | some option => goOn { side with pending := .option option (some text) }
  | none => read side

end Side

/-! ### Commands -/

/-- Reads the arguments of `run`. -/
def readRun : List String → Side → Except UsageError Found
  | [], side => side.settle
  | argument :: rest, side =>
    match Word.ofArgument argument with
    | .separator => do
      let side ← rest.foldlM (fun side file => side.readFile file) side
      side.settle
    | .long name value => do
      let side ← side.readLong runOptions name value
      readRun rest side
    | .short letters => side.readShort letters
    | .plain text =>
      side.readPlain text (fun side => do
        let side ← side.readFile text
        readRun rest side) (readRun rest)

/-- Reads the arguments of `config`, which are options only. -/
def readConfig : List String → Side → Except UsageError Found
  | [], side => side.settle
  | argument :: rest, side =>
    match Word.ofArgument argument with
    | .separator => if rest.isEmpty then side.settle else .error .unknownArgument
    | .long name value => do
      let side ← side.readLong sharedOptions name value
      readConfig rest side
    | .short letters => side.readShort letters
    | .plain text => side.readPlain text (fun _ => .error .unknownArgument) (readConfig rest)

/-- The arguments, once both sides of the command have been read. -/
def arguments (outer inner : Found) (command : Command) : Arguments where
  config := inner.config.or outer.config
  log := inner.log.or outer.log
  command := command

/-- Reads a `run` command. -/
def finishRun (outer : Side) (rest : List String) : Except UsageError Arguments := do
  let inner ← readRun rest {}
  if inner.files.isEmpty then .error .missingFiles
  else do
    let outer ← outer.settle
    .ok (arguments outer inner (.run inner.files inner.maxTicks))

/-- Reads a `config` command. -/
def finishConfig (outer : Side) (rest : List String) : Except UsageError Arguments := do
  let inner ← readConfig rest {}
  let outer ← outer.settle
  .ok (arguments outer inner .config)

/-- The names of the commands. -/
def commandNames : List String := ["run", "config", "help"]

/-- The answer to the `help` command. -/
def helpFor : List String → UsageError
  | [] => .displayHelp
  | name :: rest => if commandNames.contains name && rest.isEmpty then .displayHelp
      else .invalidCommand

/-- The refusal of arguments without a command. -/
def withoutCommand (side : Side) : Except UsageError Arguments := do
  let found ← side.settle
  .error (if found = {} then .helpOnMissingCommand else .missingCommand)

/-- Reads the arguments from the side before the command on. -/
def readOuter : List String → Side → Except UsageError Arguments
  | [], side => withoutCommand side
  | argument :: rest, side =>
    match Word.ofArgument argument with
    | .separator =>
      match rest with
      | [] => withoutCommand side
      | name :: _ =>
        .error (if commandNames.contains name then .unknownArgument else .invalidCommand)
    | .long name value => do
      let side ← side.readLong sharedOptions name value
      readOuter rest side
    | .short letters => side.readShort letters
    | .plain text =>
      side.readPlain text (fun side =>
        if text = "run" then finishRun side rest
        else if text = "config" then finishConfig side rest
        else if text = "help" then .error (helpFor rest)
        else .error .invalidCommand) (readOuter rest)

/-- Reads the arguments behind the program's name. -/
def parse (arguments : List String) : Except UsageError Arguments := readOuter arguments {}

end CommandLine

end ScriptScheduler
