import ActivityFlow.CommandLine.Arguments
import ActivityFlow.Loading
import ActivityFlow.Preview

/-!
# The command line

A command loads its documents one after the other and stops at the first error. Its answer
is a list of lines or the outcome of a run.
-/
namespace ActivityFlow

inductive CommandOutput where
  | lines (lines : List String)
  | outcome (outcome : RunOutcome)
deriving DecidableEq

/-- Why a command ended without an answer. -/
inductive CommandError where
  | load (error : LoadError)
  | bundle (error : BundleError)
  | run (failure : RunFailure)
deriving DecidableEq

/-- The texts of a command error, from the general one to the root cause. -/
def CommandError.messages : CommandError → List String
  | .load error => error.messages
  | .bundle error => error.messages
  | .run failure => [failure.message]

/-- What a command depends on besides its arguments. -/
structure Surroundings (m : Type → Type) where
  files : Files m
  /-- The path of the configuration, if one is set. -/
  configuration : Option String

namespace Command

variable {m : Type → Type} [Monad m]

def checkFile (files : Files m) (file : String) (activities : List String) :
    ExceptT CommandError m (List String) := do
  let bundle ← ExceptT.mk (Except.mapError .load <$> Bundle.load files file)
  ExceptT.mk (pure ((bundle.check activities).mapError .bundle))

/-- Tries a workflow of a file out. The configuration is loaded last. -/
def previewFile (files : Files m) (groups : m (Except LoadError Groups)) (file payload : String)
    (workflow : Option String) : ExceptT CommandError m RunOutcome := do
  let bundle ← ExceptT.mk (Except.mapError .load <$> Bundle.load files file)
  let payload ← ExceptT.mk (Except.mapError .load <$> Payload.load files payload)
  let selected ← ExceptT.mk (pure ((bundle.select workflow).mapError .bundle))
  let groups ← ExceptT.mk (Except.mapError .load <$> groups)
  ExceptT.mk (pure ((selected.preview payload groups).mapError .run))

/-- Carries a command out. -/
def execute (s : Surroundings m) : Command → ExceptT CommandError m CommandOutput
  | .validate file activities => .lines <$> checkFile s.files file activities
  | .preview file payload workflow =>
    .outcome <$>
      previewFile s.files (Groups.loadSetting s.files s.configuration) file payload workflow

end Command

/-- The name of the program with its version. -/
def versionLine : String := "docflow 0.1.0"

/-- How the program is used. -/
def usageLines : List String := [
  "Validate and preview docflow DSL workflows",
  "",
  "Usage: docflow <COMMAND>",
  "",
  "Commands:",
  "  validate <FILE> [--activity <NAME>]...",
  "      Check that every workflow in a file resolves its activities",
  "  preview <FILE> [--payload <PAYLOAD>] [--workflow <WORKFLOW>]",
  "      Run a workflow with echo activities and print the outcome",
  "  help [COMMAND]",
  "      Print this message",
  "",
  "Options:",
  "  -h, --help     Print help",
  "  -V, --version  Print version"]

/-- How a call of the program ends. -/
inductive Ending where
  | answered (output : CommandOutput)
  | failed (error : CommandError)
  | misused (error : UsageError)
  | helped
  | versioned
deriving DecidableEq

namespace Ending

def code : Ending → Nat
  | .answered _ => 0
  | .failed _ => 1
  | .misused _ => 2
  | .helped => 0
  | .versioned => 0

/-- The error texts of an ending: those of a command that failed. -/
def messages : Ending → List String
  | .failed error => error.messages
  | _ => []

end Ending

/-- Reads a command line and does what it asks for. -/
def runCommandLine {m : Type → Type} [Monad m] (s : Surroundings m) (words : List String) :
    m Ending := do
  match Invocation.ofWords words with
  | .error error => return .misused error
  | .ok .help => return .helped
  | .ok .version => return .versioned
  | .ok (.run command) =>
    match ← (command.execute s).run with
    | .ok output => return .answered output
    | .error error => return .failed error

end ActivityFlow
