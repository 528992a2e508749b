import Transcoding.Text.Cut

/-!
# Arguments

The arguments of the program: a command and its options. Options are read from left to right, and
the first one that is wrong or asks for help decides. An option with a value takes it from its own
argument, or from the next one if that does not look like an option. Every option but the list of
definition files is given at most once.
-/

namespace Transcoding.CommandLine

open Transcoding.Text

/-- Where the definition files of a generation come from. -/
inductive SourceChoice where
  | files (paths : List String)
  | directory (path : String)
  | none
  deriving DecidableEq

/-- The options of a generation. -/
structure GenerateOptions where
  source : SourceChoice := .none
  settingsPath : Option String := .none
  typesPath : Option String := .none
  runtimeCrate : Option String := .none
  output : String := "./output"
  deriving DecidableEq

/-- What the program is asked to do. -/
inductive Command where
  /-- Shows the model of a file or a directory, in words or as JSON. -/
  | parse (path : String) (json : Bool)
  /-- Generates an adapter. -/
  | generate (options : GenerateOptions)
  /-- Answers a plugin request. -/
  | plugin
  deriving DecidableEq

/-- A command, and whether to show details. -/
structure Invocation where
  command : Command
  verbose : Bool
  deriving DecidableEq

/-- Why arguments give no command. -/
inductive Stop where
  /-- The arguments are wrong. -/
  | rejected
  /-- The arguments ask for help or for the version. -/
  | help
  deriving DecidableEq

/-- What kind of value an option takes. -/
inductive ValueKind where
  | absent
  | text
  /-- A path, which is not empty. -/
  | path
  /-- Paths between commas, none of them empty. An option of this kind can be repeated. -/
  | paths
  deriving DecidableEq

/-- An option. -/
structure OptionSpec where
  long : String
  short : Option Char := none
  kind : ValueKind := .absent

/-- The options that every command has. -/
def commonOptions : List OptionSpec :=
  [{ long := "verbose", short := some 'v' }, { long := "help", short := some 'h' }]

/-- The options before the command. -/
def leadingOptions : List OptionSpec :=
  commonOptions ++ [{ long := "version", short := some 'V' }]

/-- The options of the command `parse`. -/
def parseOptions : List OptionSpec :=
  commonOptions ++ [{ long := "proto", short := some 'p', kind := .path }, { long := "json" }]

/-- The options of the command `generate`. -/
def generateOptions : List OptionSpec :=
  commonOptions ++
    [{ long := "protos", short := some 'p', kind := .paths },
     { long := "proto-dir", kind := .path },
     { long := "config", short := some 'c', kind := .path },
     { long := "types-path", kind := .text },
     { long := "runtime-crate", kind := .text },
     { long := "output", short := some 'o', kind := .path }]

/-! ## Occurrences -/

/-- An option as it is given, with its value if it takes one. -/
structure Occurrence where
  name : String
  value : Option String := none
  deriving DecidableEq

/-- The options that have been read, and one that waits for its value. -/
structure Reading where
  given : List Occurrence := []
  waiting : Option OptionSpec := none

/-- The pieces of a list of paths. -/
def pathPieces (value : Option String) : List String :=
  (fields ',' (value.getD "").toList).map String.ofList

/-- Whether an option can be given with a value after others. -/
def OptionSpec.accepts (spec : OptionSpec) (given : List Occurrence) (value : Option String) :
    Bool :=
  match spec.kind with
  | .paths => (pathPieces value).all (· != "")
  | .path => !given.any (·.name == spec.long) && value != some ""
  | _ => !given.any (·.name == spec.long)

/-- Reads an option with its value. -/
def Reading.add (reading : Reading) (spec : OptionSpec) (value : Option String) :
    Except Stop Reading :=
  if spec.long = "help" || spec.long = "version" then .error .help
  else if spec.accepts reading.given value then
    .ok { given := reading.given ++ [{ name := spec.long, value }] }
  else .error .rejected

/-- Whether an argument looks like an option. -/
def looksLikeOption (argument : List Char) : Bool :=
  match argument with
  | '-' :: _ :: _ => true
  | _ => false

/-- Reads an argument with a long name. -/
def longArgument (specs : List OptionSpec) (reading : Reading) (text : List Char) :
    Except Stop Reading :=
  let (name, value) := match cutAt '=' text with
    | some (name, value) => (String.ofList name, some (String.ofList value))
    | none => (String.ofList text, none)
  match specs.find? (·.long == name) with
  | none => .error .rejected
  | some spec =>
    match value with
    | some _ => if spec.kind = .absent then .error .rejected else reading.add spec value
    | none =>
      if spec.kind = .absent then reading.add spec none
      else .ok { reading with waiting := some spec }

/-- Reads an argument with short names. The first one that takes a value takes the rest. -/
def shortArgument (specs : List OptionSpec) : Reading → List Char → Except Stop Reading
  | reading, [] => .ok reading
  | reading, c :: rest =>
    match specs.find? (·.short == some c) with
    | none => .error .rejected
    | some spec =>
      if spec.kind = .absent then do shortArgument specs (← reading.add spec none) rest
      else match rest with
        | [] => .ok { reading with waiting := some spec }
        | '=' :: value => reading.add spec (some (String.ofList value))
        | value => reading.add spec (some (String.ofList value))

/-- Reads one argument. -/
def readArgument (specs : List OptionSpec) (reading : Reading) (argument : String) :
    Except Stop Reading :=
  match argument.toList with
  | '-' :: '-' :: c :: rest => longArgument specs reading (c :: rest)
  | '-' :: c :: rest => shortArgument specs reading (c :: rest)
  | _ => .error .rejected

/-- Reads arguments up to their end, or up to two dashes at their end. -/
def readArguments (specs : List OptionSpec) :
    Reading → List String → Except Stop (List Occurrence)
  | reading, [] => if reading.waiting.isSome then .error .rejected else .ok reading.given
  | reading, argument :: rest =>
    match reading.waiting with
    | some spec =>
      if looksLikeOption argument.toList then .error .rejected
      else do readArguments specs (← reading.add spec (some argument)) rest
    | none =>
      if argument = "--" && rest.isEmpty then .ok reading.given
      else do readArguments specs (← readArgument specs reading argument) rest

/-! ## Commands -/

/-- Whether an option was given. -/
def flag (name : String) (given : List Occurrence) : Bool := given.any (·.name == name)

/-- The value of an option, if it was given. -/
def value? (name : String) (given : List Occurrence) : Option String := do
  (← given.find? (·.name == name)).value

/-- The paths of an option that can be repeated, if it was given. -/
def paths? (name : String) (given : List Occurrence) : Option (List String) :=
  match given.filter (·.name == name) with
  | [] => none
  | occurrences => some (occurrences.flatMap (pathPieces ·.value))

/-- The command `parse` with its options. -/
def parseCommand (given : List Occurrence) : Except Stop Command :=
  match value? "proto" given with
  | some path => .ok (.parse path (flag "json" given))
  | none => .error .rejected

/-- Where the definition files come from. There is one place. -/
def sourceChoice (given : List Occurrence) : Except Stop SourceChoice :=
  match paths? "protos" given, value? "proto-dir" given with
  | some _, some _ => .error .rejected
  | some files, none => .ok (.files files)
  | none, some directory => .ok (.directory directory)
  | none, none => .ok .none

/-- The command `generate` with its options. -/
def generateCommand (given : List Occurrence) : Except Stop Command := do
  let defaults : GenerateOptions := {}
  return .generate {
    source := ← sourceChoice given
    settingsPath := value? "config" given
    typesPath := value? "types-path" given
    runtimeCrate := value? "runtime-crate" given
    output := (value? "output" given).getD defaults.output }

/-- The names of the commands. -/
def commandNames : List String := ["parse", "generate", "plugin", "help"]

/-- Reads the command with the given name. Help can be asked for one command. -/
def readCommand (name : String) (rest : List String) : Except Stop (Command × Bool) := do
  let (specs, build) ← match name with
    | "parse" => pure (parseOptions, parseCommand)
    | "generate" => pure (generateOptions, generateCommand)
    | "plugin" => pure (commonOptions, fun _ => .ok .plugin)
    | "help" =>
      .error (if rest.length ≤ 1 && rest.all commandNames.contains then .help else .rejected)
    | _ => .error .rejected
  let given ← readArguments specs {} rest
  return (← build given, flag "verbose" given)

/-- Reads the arguments of the program. -/
def readInvocation (arguments : List String) : Except Stop Invocation := do
  let leading := arguments.takeWhile (looksLikeOption ·.toList)
  let given ← readArguments leadingOptions {} leading
  match arguments.dropWhile (looksLikeOption ·.toList) with
  | [] => .error .rejected
  | name :: rest =>
    if leading.contains "--" then .error .rejected
    else
      let (command, detailed) ← readCommand name rest
      return { command, verbose := flag "verbose" given || detailed }

end Transcoding.CommandLine
