import Folio.CommandLine.Arguments
import Folio.Config.Configuration

/-!
# What is asked for on the command line

The program converts a file, converts many files into a directory, shows a formula, or lists its
formats. A command line that names no command but begins with an operand asks for the conversion of
one file. Configuration values are given by options of their own, which are taken out first.
-/

namespace Folio.CommandLine

/-- A command with its operands and options. -/
inductive Command where
  | convert (input : String) (source target output : Option String)
  | batch (inputs : List String) (target directory : String) (jobs : Option Nat) (strict : Bool)
  | formula (source : String) (markup : Bool)
  deriving DecidableEq, Repr

/-- What is asked for. -/
structure Invocation where
  listFormats : Bool := false
  /-- The configuration file to be read. -/
  config : Option String := none
  command : Option Command := none
  deriving DecidableEq, Repr

/-! ## Configuration values -/

/-- The mark of an option that gives a configuration value. -/
def overrideMark : List Char := "--extra-".toList

/-- The key that such an option names: dashes stand for underscores, and case does not matter. -/
def overrideKey (name : List Char) : String :=
  String.ofList (Unicode.lowercase (name.map fun c => if c = '-' then '_' else c))

/-- Takes the options that give configuration values out of the arguments. A value that does not
begin with a dash belongs to the option before it; without one the option is a flag that is set. -/
def takeOverrides : List String → List String × List (String × String)
  | [] => ([], [])
  | word :: rest =>
    if overrideMark.isPrefixOf word.toList then
      let key := overrideKey (word.toList.drop overrideMark.length)
      match rest with
      | value :: rest =>
        if value.toList.head? = some '-' then
          let (args, overrides) := takeOverrides (value :: rest)
          (args, (key, "true") :: overrides)
        else
          let (args, overrides) := takeOverrides rest
          (args, (key, value) :: overrides)
      | [] => ([], [(key, "true")])
    else
      let (args, overrides) := takeOverrides rest
      (word :: args, overrides)

/-- The values by key in order; of several for one key the last holds. -/
def sortOverrides (overrides : List (String × String)) : List (String × String) :=
  let kept := overrides.foldr (fun entry later =>
    if later.any (·.1 == entry.1) then later else entry :: later) []
  kept.mergeSort fun a b => decide (a.1 ≤ b.1)

/-! ## Commands -/

/-- An option whose value may be any text. -/
def textOption (name : String) (letter : Option Char) : OptionSpec :=
  { name, letter, kind := .value fun _ => true }

/-- An option that is set or not. -/
def flagOption (name : String) (letter : Option Char) : OptionSpec :=
  { name, letter, kind := .flag }

/-- The options that stand before a command or among its own. -/
def sharedOptions : List OptionSpec :=
  [textOption "config" none, flagOption "verbose" (some 'v'),
    { name := "help", letter := some 'h', kind := .help }]

/-- The number of items that may be worked on at a time. -/
def jobsOf (text : String) : Option Nat :=
  (Config.Value.naturalText? text).filter (decide <| · ≤ Config.maxLong)

/-- What stands before a command. -/
def outerGrammar : Grammar where
  options := sharedOptions ++
    [flagOption "list-formats" none, { name := "version", letter := some 'V', kind := .version }]
  commands := ["convert", "batch", "math", "help"]

/-- The arguments of a conversion. -/
def convertGrammar : Grammar where
  options := sharedOptions ++
    [textOption "from" none, textOption "to" none, textOption "output" (some 'o')]
  operands := some 1

/-- The arguments of a batch. -/
def batchGrammar : Grammar where
  options := sharedOptions ++
    [textOption "to" none, textOption "out-dir" none,
      { name := "jobs", letter := some 'j', kind := .value fun text => (jobsOf text).isSome },
      flagOption "strict" none]
  operands := none

/-- The arguments of a formula. -/
def formulaGrammar : Grammar where
  options := sharedOptions ++ [flagOption "xml" none]
  operands := some 1

/-- What has to be given. -/
def need (name : String) (value : Option α) : Except Stop α :=
  match value with
  | some value => .ok value
  | none => .error (.fault (.missing name))

/-- A conversion; its format may be left open if there is an output file to tell it. -/
def convertCommand (given : Given) : Except Stop Command := do
  let input ← need "input" given.operands.head?
  let target := given.value? "to"
  let output := given.value? "output"
  if target.isNone && output.isNone then .error (.fault (.missing "to"))
  else return .convert input (given.value? "from") target output

/-- A batch of conversions. -/
def batchCommand (given : Given) : Except Stop Command := do
  let _ ← need "inputs" given.operands.head?
  let target ← need "to" (given.value? "to")
  let directory ← need "out-dir" (given.value? "out-dir")
  return .batch given.operands target directory ((given.value? "jobs").bind jobsOf)
    (given.has "strict")

/-- A formula to be shown. -/
def formulaCommand (given : Given) : Except Stop Command := do
  return .formula (← need "latex" given.operands.head?) (given.has "xml")

/-- The command of a name with its arguments, and the configuration file given among them. -/
def readCommand (name : String) (args : List String) :
    Except Stop (Command × Option String) := do
  let read (grammar : Grammar) (command : Given → Except Stop Command) := do
    let (given, _) ← grammar.read {} args
    return (← command given, given.value? "config")
  match name with
  | "convert" => read convertGrammar convertCommand
  | "batch" => read batchGrammar batchCommand
  | "math" => read formulaGrammar formulaCommand
  | _ =>
    match args with
    | [] => .error .help
    | topic :: more =>
      if outerGrammar.commands.contains topic then
        match more with
        | [] => .error .help
        | other :: _ => .error (.fault (.unknownCommand other))
      else .error (.fault (.unknownCommand topic))

/-- What the arguments ask for as they stand. -/
def parseDirect (args : List String) : Except Stop Invocation := do
  let (given, named) ← outerGrammar.read {} args
  let listFormats := given.has "list-formats"
  match named with
  | some (name, args) =>
    let (command, config) ← readCommand name args
    return { listFormats, config := config.or (given.value? "config"), command := some command }
  | none =>
    if given.options.isEmpty then .error (.fault .nothingAsked)
    else return { listFormats, config := given.value? "config" }

/-- The arguments may be those of a conversion whose name has been left out. -/
def impliesConvert (args : List String) : Bool :=
  match args with
  | first :: _ => first.toList.head? != some '-' && !outerGrammar.commands.contains first
  | [] => false

/-- What the arguments ask for. -/
def parse (args : List String) : Except Stop Invocation :=
  match parseDirect args with
  | .ok invocation => .ok invocation
  | .error stop => if impliesConvert args then parseDirect ("convert" :: args) else .error stop

end Folio.CommandLine
