import DeployTree.Dictionary

/-! # The arguments of the program

The program has two commands, `generate` and `check`. Four options may stand before
or after the command; where one is given in both places, those after the command
count. An option that stands without its value waits for the next argument, and it
takes effect only when the next option or the end is reached; an argument that
cannot be understood at all is reported before what is still waiting.
-/

namespace DeployTree.CommandLine

/-- An option of the program: the document, where the output goes and whether it is laid out over
several lines, the namespace of variables, one binding of a variable, the level and the format of
the log, and the questions for help and for the version. -/
inductive Opt where
  | file
  | out
  | pretty
  | envPrefix
  | env
  | logLevel
  | logFormat
  | help
  | version
deriving DecidableEq

namespace Opt

/-- The long name of an option. -/
def long : Opt → String
  | file => "file"
  | out => "out"
  | pretty => "pretty"
  | envPrefix => "env-prefix"
  | env => "env"
  | logLevel => "log-level"
  | logFormat => "log-format"
  | help => "help"
  | version => "version"

/-- The short name of an option. -/
def short? : Opt → Option Char
  | file => some 'f'
  | out => some 'o'
  | help => some 'h'
  | version => some 'V'
  | _ => none

/-- The name of the value of an option, if it takes one. -/
def valueName? : Opt → Option String
  | file => some "FILE"
  | out => some "OUT"
  | envPrefix => some "ENV_PREFIX"
  | env => some "BINDINGS"
  | logLevel => some "LOG_LEVEL"
  | logFormat => some "LOG_FORMAT"
  | pretty | help | version => none

/-- An option as a message shows it. -/
def shown (opt : Opt) : String :=
  match opt.valueName? with
  | none => "--" ++ opt.long
  | some name => "--" ++ opt.long ++ " <" ++ name ++ ">"

/-- Whether an option may be given more than once. -/
def repeats : Opt → Bool
  | env => true
  | _ => false

end Opt

/-- Where an argument stands: before the command, or after one. -/
inductive Place where
  | top
  | generate
  | check
deriving DecidableEq

/-- The options that may be given at a place. -/
def Place.options : Place → List Opt
  | .top => [.envPrefix, .env, .logLevel, .logFormat, .help, .version]
  | .generate => [.file, .out, .pretty, .envPrefix, .env, .logLevel, .logFormat, .help]
  | .check => [.file, .envPrefix, .env, .logLevel, .logFormat, .help]

/-- Why the arguments are refused. The last two faults are about an option: its value is not one
that it takes, or it takes none. -/
inductive UsageFault where
  | nothingGiven
  | commandMissing
  | unknownCommand (name : String)
  | unexpected (argument : String)
  | repeated (opt : Opt)
  | requiredMissing
  | valueMissing (opt : Opt)
  | invalidValue (value : String) (opt : Opt) (reason : Option String)
  | unexpectedValue (value : String) (opt : Opt)
deriving DecidableEq

/-- The first line of the message about a fault. -/
def UsageFault.text (fault : UsageFault) : String :=
  match fault with
  | .nothingGiven => "convergdb - resolve and validate deployment IR"
  | .commandMissing =>
      "error: 'convergdb' requires a subcommand but one was not provided"
  | .unknownCommand name => "error: unrecognized subcommand '" ++ name ++ "'"
  | .unexpected argument => "error: unexpected argument '" ++ argument ++ "' found"
  | .repeated opt => "error: the argument '" ++ opt.shown ++ "' cannot be used multiple times"
  | .requiredMissing => "error: the following required arguments were not provided:"
  | .valueMissing opt =>
      "error: a value is required for '" ++ opt.shown ++ "' but none was supplied"
  | .invalidValue value opt reason =>
      "error: invalid value '" ++ value ++ "' for '" ++ opt.shown ++ "'" ++
        (reason.map fun why => ": " ++ why).getD ""
  | .unexpectedValue value opt =>
      "error: unexpected value '" ++ value ++ "' for '" ++ opt.shown ++
        "' found; no more were expected"

/-- The text up to the end of its first line. -/
def firstLine (text : String) : String := String.ofList (text.toList.takeWhile (· ≠ '\n'))

/-- What ends the reading of the arguments early: a question for the help text or for the version,
or arguments that are refused. -/
inductive Halt where
  | help
  | version
  | refused (fault : UsageFault)
deriving DecidableEq

/-- How the log is written: as lines of text, or as JSON objects. -/
inductive LogFormat where
  | text
  | json
deriving DecidableEq

/-- The log format of a name. -/
def LogFormat.ofName? (name : String) : Option LogFormat :=
  if name = "text" then some .text else if name = "json" then some .json else none

/-- The binding that a text `NAME=VALUE` gives; the name is not empty and ends at the first
equals sign. -/
def binding? (text : String) : Option (String × String) :=
  let name := text.toList.takeWhile (· ≠ '=')
  match text.toList.drop name.length with
  | _ :: value => if name.isEmpty then none else some (String.ofList name, String.ofList value)
  | [] => none

/-- Why a value is none that an option takes. -/
def valueFault? (opt : Opt) (value : String) : Option UsageFault :=
  match opt with
  | .file | .out => if value.isEmpty then some (.valueMissing opt) else none
  | .logFormat =>
      if value.isEmpty then some (.valueMissing opt)
      else if (LogFormat.ofName? value).isNone then some (.invalidValue value opt none)
      else none
  | .env =>
      if (binding? value).isNone then
        some (.invalidValue value opt (some ("expected KEY=VALUE, got " ++ value)))
      else none
  | _ => none

/-- An option that has been read but has not taken effect: none, one that waits for its value, or
one that has it. -/
inductive Pending where
  | none
  | awaiting (opt : Opt)
  | given (opt : Opt) (value : String)
deriving DecidableEq

/-- The options read so far at a place: those that have taken effect, with their values and in
order, and the one that has not. -/
structure Given where
  settled : List (Opt × String)
  pending : Pending
deriving DecidableEq

namespace Given

/-- No option at all. -/
def nothing : Given := ⟨[], .none⟩

/-- The values of an option in order. -/
def values (given : Given) (opt : Opt) : List String :=
  given.settled.filterMap fun entry => if entry.1 = opt then some entry.2 else none

/-- Lets an option take effect. -/
def take (given : Given) (opt : Opt) (value : String) : Except Halt Given :=
  if !opt.repeats && !(given.values opt).isEmpty then .error (.refused (.repeated opt))
  else
    match valueFault? opt value with
    | some fault => .error (.refused fault)
    | none => .ok { given with settled := given.settled ++ [(opt, value)] }

/-- Lets the option that waits take effect. -/
def settle (given : Given) : Except Halt Given :=
  match given.pending with
  | .none => .ok given
  | .awaiting opt => .error (.refused (.valueMissing opt))
  | .given opt value => { given with pending := .none }.take opt value

/-- Lets an option without value take effect. -/
def takeSwitch (given : Given) (opt : Opt) : Except Halt Given := do
  let settled ← given.settle
  match opt with
  | .help => .error .help
  | .version => .error .version
  | _ => settled.take opt ""

/-- Reads an option that takes a value, which may be attached. -/
def takeOption (given : Given) (opt : Opt) (attached : Option String) : Except Halt Given := do
  let settled ← given.settle
  match attached with
  | some value => settled.take opt value
  | none => .ok { settled with pending := .awaiting opt }

/-- Reads an argument that starts with two hyphens, given without them. -/
def takeLong (given : Given) (place : Place) (argument : List Char) : Except Halt Given :=
  let name := argument.takeWhile (· ≠ '=')
  let attached := match argument.drop name.length with
    | [] => none
    | _ :: value => some (String.ofList value)
  match place.options.find? fun opt => opt.long.toList = name with
  | none => .error (.refused (.unexpected (String.ofList ('-' :: '-' :: name))))
  | some opt =>
      match opt.valueName?, attached with
      | some _, _ => given.takeOption opt attached
      | none, none => given.takeSwitch opt
      | none, some value => .error (.refused (.unexpectedValue value opt))

/-- Reads the short options after a hyphen. -/
def takeShort (place : Place) : List Char → Given → Except Halt Given
  | [], given => .ok given
  | c :: rest, given =>
      match place.options.find? fun opt => opt.short? = some c with
      | none => .error (.refused (.unexpected (String.ofList ['-', c])))
      | some opt =>
          match opt.valueName? with
          | none => do
              let next ← given.takeSwitch opt
              takeShort place rest next
          | some _ =>
              let attached := match rest with
                | [] => none
                | '=' :: value => some (String.ofList value)
                | value => some (String.ofList value)
              given.takeOption opt attached

end Given

/-- What one argument means at a place: options go on, only operands follow, or the argument is an
operand itself. -/
inductive Step where
  | go (given : Given)
  | operands
  | operand

/-- Reads one argument. -/
def step (place : Place) (given : Given) (argument : String) : Except Halt Step :=
  match argument.toList with
  | ['-', '-'] => .ok .operands
  | '-' :: '-' :: long => (given.takeLong place long).map .go
  | '-' :: c :: rest => (Given.takeShort place (c :: rest) given).map .go
  | _ =>
      match given.pending with
      | .awaiting opt => .ok (.go { given with pending := .given opt argument })
      | _ => .ok .operand

/-- Reads the arguments after a command, to the end. -/
def readCommand (place : Place) : List String → Given → Except Halt Given
  | [], given => given.settle
  | argument :: rest, given => do
      match ← step place given argument with
      | .go next => readCommand place rest next
      | .operand => .error (.refused (.unexpected argument))
      | .operands =>
          match rest with
          | [] => given.settle
          | operand :: _ => .error (.refused (.unexpected operand))

/-- What is to be done: the output for a document is written, or a document is checked. -/
inductive Command where
  | generate (file : String) (out : Option String) (pretty : Bool)
  | check (file : String)
deriving DecidableEq

/-- A command and the settings that hold for both: the text that names of variables must start with,
the bindings in front of those of the process, and the level and the format of the log. -/
structure Invocation where
  command : Command
  envPrefix : String
  bindings : List (String × String)
  logLevel : String
  logFormat : LogFormat
deriving DecidableEq

/-- The values of an option that may stand in both places. -/
def chosen (before after : Given) (opt : Opt) : List String :=
  if (after.values opt).isEmpty then before.values opt else after.values opt

/-- The invocation that the options before and after a command describe. -/
def invocation (command : Command) (before after : Given) : Invocation where
  command := command
  envPrefix := ((chosen before after .envPrefix).getLast?).getD "CONVERGDB_"
  bindings := (chosen before after .env).filterMap binding?
  logLevel := ((chosen before after .logLevel).getLast?).getD "info"
  logFormat := (((chosen before after .logFormat).getLast?).bind LogFormat.ofName?).getD .text

/-- Reads the arguments after the command of a place. -/
def finish (place : Place) (rest : List String) (before : Given) : Except Halt Invocation := do
  let after ← readCommand place rest .nothing
  match after.values .file with
  | [] => .error (.refused .requiredMissing)
  | file :: _ =>
      let before ← before.settle
      let command : Command := match place with
        | .check => .check file
        | _ => .generate file (after.values .out).head? (!(after.values .pretty).isEmpty)
      .ok (invocation command before after)

/-- The end of arguments without a command. -/
def withoutCommand (given : Given) : Except Halt Invocation := do
  let settled ← given.settle
  .error (.refused (if settled.settled.isEmpty then .nothingGiven else .commandMissing))

/-- The place that the name of a command opens. -/
def placeOf? (name : String) : Option Place :=
  if name = "generate" then some .generate else if name = "check" then some .check else none

/-- Reads the arguments after `help`: they name a command to explain, and nothing else. -/
def readHelp : List String → Halt
  | [] => .help
  | [name] =>
      if (placeOf? name).isSome || name = "help" then .help else .refused (.unknownCommand name)
  | name :: next :: _ =>
      .refused <| .unknownCommand <|
        if (placeOf? name).isSome || name = "help" then next else name

/-- Reads an operand that no option precedes where a command is due. -/
def refuseOperand (marked : Bool) (operand : String) : Halt :=
  if marked && ((placeOf? operand).isSome || operand = "help") then
    .refused (.unexpected operand)
  else .refused (.unknownCommand operand)

/-- Reads the arguments from the first one, with the options before the command so far. -/
def readFrom : List String → Given → Except Halt Invocation
  | [], given => withoutCommand given
  | argument :: rest, given =>
      let waits := match given.pending with
        | .awaiting _ => true
        | _ => false
      match if waits then none else placeOf? argument with
      | some place => finish place rest given
      | none =>
          if !waits && argument = "help" then .error (readHelp rest)
          else do
            match ← step .top given argument with
            | .go next => readFrom rest next
            | .operand => .error (refuseOperand false argument)
            | .operands =>
                match rest with
                | [] => withoutCommand given
                | operand :: _ => .error (refuseOperand true operand)

/-- Reads the arguments of the program. -/
def parse (arguments : List String) : Except Halt Invocation := readFrom arguments .nothing

end DeployTree.CommandLine
