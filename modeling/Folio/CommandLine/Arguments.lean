/-!
# Arguments of a command

Options begin with a dash: long names with two, single letters with one, and letters may share it.
An option may take a value, which is attached or comes next; one that comes next does not begin with
a dash. After two dashes alone nothing is an option any more. Everything else is an operand.
-/

namespace Folio.CommandLine

/-- Why arguments are not understood. -/
inductive UsageFault where
  | nothingAsked
  | unknownOption (text : String)
  | missingValue (option : String)
  | needlessValue (option : String)
  | repeated (option : String)
  | unsuitable (option value : String)
  | unexpected (operand : String)
  | missing (name : String)
  | unknownCommand (name : String)
  deriving DecidableEq, Repr

/-- The wording of a fault. -/
def UsageFault.message : UsageFault → String
  | .nothingAsked => "nothing to do"
  | .unknownOption text => "unexpected option '" ++ text ++ "'"
  | .missingValue option => "option '" ++ option ++ "' needs a value"
  | .needlessValue option => "option '" ++ option ++ "' takes no value"
  | .repeated option => "option '" ++ option ++ "' is given twice"
  | .unsuitable option value => "option '" ++ option ++ "' cannot be '" ++ value ++ "'"
  | .unexpected operand => "unexpected operand '" ++ operand ++ "'"
  | .missing name => "'" ++ name ++ "' is missing"
  | .unknownCommand name => "unknown command '" ++ name ++ "'"

/-- Why reading arguments ends early. -/
inductive Stop where
  /-- Help is asked for. -/
  | help
  /-- The version is asked for. -/
  | version
  | fault (fault : UsageFault)
  deriving DecidableEq, Repr

/-- What an option does. -/
inductive OptionKind where
  | flag
  /-- It takes a value of some form. -/
  | value (accepts : String → Bool)
  | help
  | version

/-- An option of a command. -/
structure OptionSpec where
  name : String
  letter : Option Char := none
  kind : OptionKind

/-- What a command understands. -/
structure Grammar where
  options : List OptionSpec
  /-- The most operands it takes; none is no limit. -/
  operands : Option Nat := some 0
  /-- The words that begin the arguments of another command. -/
  commands : List String := []

/-- Options with their values, flags having an empty one, and operands. -/
structure Given where
  options : List (String × String) := []
  operands : List String := []
  deriving DecidableEq, Repr

namespace Given

/-- The option has been given. -/
def has (given : Given) (name : String) : Bool := (given.options.lookup name).isSome

/-- The value given for an option. -/
def value? (given : Given) (name : String) : Option String := given.options.lookup name

/-- What is given with one more option. -/
def record (given : Given) (option : OptionSpec) (value : String) : Except Stop Given :=
  let added : Except Stop Given :=
    if given.has option.name then .error (.fault (.repeated option.name))
    else .ok { given with options := given.options ++ [(option.name, value)] }
  match option.kind with
  | .help => .error .help
  | .version => .error .version
  | .flag => added
  | .value accepts =>
    if accepts value then added else .error (.fault (.unsuitable option.name value))

/-- What is given with one more operand. -/
def addOperand (grammar : Grammar) (given : Given) (operand : String) : Except Stop Given :=
  let full := grammar.operands.any (decide <| · ≤ given.operands.length)
  if full then .error (.fault (.unexpected operand))
  else .ok { given with operands := given.operands ++ [operand] }

end Given

namespace Grammar

/-- The option of a name. -/
def long? (grammar : Grammar) (name : String) : Option OptionSpec :=
  grammar.options.find? (·.name == name)

/-- The option of a letter. -/
def letter? (grammar : Grammar) (letter : Char) : Option OptionSpec :=
  grammar.options.find? (·.letter == some letter)

/-- The options of letters that share a dash. The last of them may still wait for its value. -/
def readLetters (grammar : Grammar) : List Char → Given → Except Stop (Given × Option OptionSpec)
  | [], given => .ok (given, none)
  | c :: cs, given =>
    match grammar.letter? c with
    | none => .error (.fault (.unknownOption (String.ofList ['-', c])))
    | some option =>
      match option.kind, cs with
      | .value _, [] => .ok (given, some option)
      | .value _, '=' :: value =>
        (given.record option (String.ofList value)).map fun given => (given, none)
      | .value _, value =>
        (given.record option (String.ofList value)).map fun given => (given, none)
      | _, _ => do
        let given ← given.record option ""
        grammar.readLetters cs given

/-- The option of a long name, with its value after an equals sign. -/
def readLong (grammar : Grammar) (text : List Char) (given : Given) :
    Except Stop (Given × Option OptionSpec) :=
  let name := String.ofList (text.takeWhile (· != '='))
  match grammar.long? name with
  | none => .error (.fault (.unknownOption ("--" ++ name)))
  | some option =>
    match option.kind, text.dropWhile (· != '=') with
    | .value _, [] => .ok (given, some option)
    | .value _, _ :: value =>
      (given.record option (String.ofList value)).map fun given => (given, none)
    | _, [] => (given.record option "").map fun given => (given, none)
    | _, _ :: _ => .error (.fault (.needlessValue name))

/-- One argument: options, or an operand. -/
def readWord (grammar : Grammar) (word : String) (given : Given) :
    Except Stop (Given × Option OptionSpec) :=
  match word.toList with
  | '-' :: '-' :: text => grammar.readLong text given
  | '-' :: c :: cs => grammar.readLetters (c :: cs) given
  | _ => (given.addOperand grammar word).map fun given => (given, none)

/-- The argument can be no value of an option before it. -/
def looksLikeOption (word : String) : Bool :=
  match word.toList with
  | '-' :: _ :: _ => true
  | _ => false

/-- Reads arguments, up to the name of another command; what follows that is left. -/
def read (grammar : Grammar) (given : Given) :
    List String → Except Stop (Given × Option (String × List String))
  | [] => .ok (given, none)
  | word :: rest =>
    if grammar.commands.contains word then .ok (given, some (word, rest))
    else if word = "--" then
      (rest.foldlM (Given.addOperand grammar) given).map fun given => (given, none)
    else
      match grammar.readWord word given with
      | .error stop => .error stop
      | .ok (given, none) => grammar.read given rest
      | .ok (given, some option) =>
        match rest with
        | [] => .error (.fault (.missingValue option.name))
        | value :: rest =>
          if looksLikeOption value then .error (.fault (.missingValue option.name))
          else
            match given.record option value with
            | .error stop => .error stop
            | .ok given => grammar.read given rest

end Grammar
end Folio.CommandLine
