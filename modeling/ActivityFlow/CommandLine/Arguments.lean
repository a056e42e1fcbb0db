/-!
# Arguments

A command line names one command, the file that it works on, and options. An option's value
follows it as the next argument or behind an equals sign; after two dashes every argument is
meant literally.
-/
namespace ActivityFlow

/-- What the program can be asked to do with a workflow file. -/
inductive Command where
  /-- Check the workflows against the names of the activities that exist. -/
  | validate (file : String) (activities : List String)
  /-- Try a workflow out with a payload. -/
  | preview (file payload : String) (workflow : Option String)
deriving DecidableEq

/-- What a command line asks for. -/
inductive Invocation where
  | run (command : Command)
  | help
  | version
deriving DecidableEq

inductive OptionName where
  | activity
  | payload
  | workflow
deriving DecidableEq

namespace OptionName

def all : List OptionName := [.activity, .payload, .workflow]

/-- How an option is written, without its dashes. -/
def word : OptionName → String
  | activity => "activity"
  | payload => "payload"
  | workflow => "workflow"

/-- Whether an option may be given more than once. -/
def isRepeatable : OptionName → Bool
  | activity => true
  | payload => false
  | workflow => false

end OptionName

/-- A mistake in a command line. -/
inductive UsageError where
  | noCommand
  | unknownCommand (word : String)
  | unknownArgument (word : String)
  | noValue (option : OptionName)
  | needlessValue (word : String)
  | repeatedOption (option : OptionName)
  | noFile
deriving DecidableEq

def UsageError.message : UsageError → String
  | .noCommand => "a command is required: validate or preview"
  | .unknownCommand word => "unrecognized command '" ++ word ++ "'"
  | .unknownArgument word => "unexpected argument '" ++ word ++ "'"
  | .noValue option => "a value is required for '--" ++ option.word ++ "'"
  | .needlessValue word => "'" ++ word ++ "' takes no value"
  | .repeatedOption option => "'--" ++ option.word ++ "' cannot be used multiple times"
  | .noFile => "a workflow file is required"

/-- What has been read of a command's arguments. -/
structure Arguments where
  file : Option String
  /-- The options with their values, in order. -/
  options : List (OptionName × String)
  /-- An option whose value is due. -/
  pending : Option OptionName
  /-- Whether arguments are meant literally. -/
  literal : Bool

namespace Arguments

def empty : Arguments := ⟨none, [], none, false⟩

/-- Refuses to go on while a value is due. -/
def settle (a : Arguments) : Except UsageError Unit :=
  match a.pending with
  | some option => .error (.noValue option)
  | none => .ok ()

def store (a : Arguments) (option : OptionName) (value : String) :
    Except UsageError Arguments :=
  if !option.isRepeatable && a.options.any (·.1 == option) then .error (.repeatedOption option)
  else .ok { a with options := a.options ++ [(option, value)], pending := none }

/-- Adds an argument that is no option. -/
def position (a : Arguments) (word : String) : Except UsageError Arguments :=
  match a.file with
  | some _ => .error (.unknownArgument word)
  | none => if word.isEmpty then .error .noFile else .ok { a with file := some word }

/-- Splits an argument at its first equals sign. -/
def splitValue (cs : List Char) : String × Option String :=
  let name := String.ofList (cs.takeWhile (· != '='))
  match cs.dropWhile (· != '=') with
  | [] => (name, none)
  | _ :: value => (name, some (String.ofList value))

/-- Adds an option of those that the command has. Nothing is returned if it asks for help. -/
def option (a : Arguments) (known : List OptionName) (cs : List Char) :
    Except UsageError (Option Arguments) := do
  let (name, value) := splitValue cs
  if name = "help" then
    match value with
    | some _ => throw (.needlessValue "--help")
    | none =>
      a.settle
      return none
  else
    match known.find? fun o => o.word == name with
    | none => throw (.unknownArgument ("--" ++ name))
    | some o =>
      a.settle
      match value with
      | some value => return some (← a.store o value)
      | none => return some { a with pending := some o }

/-- Adds an argument. Nothing is returned if it asks for help. -/
def add (a : Arguments) (known : List OptionName) (word : String) :
    Except UsageError (Option Arguments) := do
  if a.literal then return some (← a.position word)
  else
    match word.toList with
    | ['-', '-'] =>
      a.settle
      return some { a with literal := true }
    | '-' :: '-' :: cs => a.option known cs
    | '-' :: 'h' :: _ =>
      a.settle
      return none
    | '-' :: c :: _ => throw (.unknownArgument ("-" ++ String.singleton c))
    | _ =>
      match a.pending with
      | some o => return some (← a.store o word)
      | none => return some (← a.position word)

/-- Adds arguments in order until one asks for help. -/
def addAll (a : Arguments) (known : List OptionName) :
    List String → Except UsageError (Option Arguments)
  | [] => .ok (some a)
  | word :: rest => do
    match ← a.add known word with
    | some a => addAll a known rest
    | none => return none

def value? (a : Arguments) (option : OptionName) : Option String :=
  (a.options.find? (·.1 == option)).map (·.2)

/-- Reads the arguments of a command, which needs a file. -/
def read (known : List OptionName) (words : List String)
    (command : String → Arguments → Command) : Except UsageError Invocation := do
  match ← empty.addAll known words with
  | none => return .help
  | some a =>
    a.settle
    match a.file with
    | some file => return .run (command file a)
    | none => throw .noFile

end Arguments

namespace Invocation

def commands : List String := ["validate", "preview", "help"]

/-- The payload of a preview that names none. -/
def defaultPayload : String := "\x7b\x7d"

/-- Reads what is asked about with `help`: the program, or one command. -/
def ofTopics : List String → Except UsageError Invocation
  | [] => .ok .help
  | topic :: rest =>
    if !commands.contains topic then .error (.unknownCommand topic)
    else
      match rest with
      | [] => .ok .help
      | more :: _ => .error (.unknownCommand more)

/-- Reads a command line, without the name of the program. -/
def ofWords : List String → Except UsageError Invocation
  | [] => .error .noCommand
  | word :: rest =>
    if word = "validate" then
      Arguments.read [.activity] rest fun file a => .validate file (a.options.map (·.2))
    else if word = "preview" then
      Arguments.read [.payload, .workflow] rest fun file a =>
        .preview file ((a.value? .payload).getD defaultPayload) (a.value? .workflow)
    else if word = "help" then ofTopics rest
    else if word = "--help" || word.startsWith "-h" then .ok .help
    else if word = "--version" || word.startsWith "-V" then .ok .version
    else if word.startsWith "-" then .error (.unknownArgument word)
    else .error (.unknownCommand word)

end Invocation

end ActivityFlow
