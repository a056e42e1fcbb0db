import ActivityFlow.Files
import ActivityFlow.Groups.Document
import ActivityFlow.Payload.Reader
import ActivityFlow.Workflow.Document

/-!
# Loading documents

Workflows, configurations and payloads are read from files. A workflow file may hold
malformed text, which is replaced; the other files may not.
-/
namespace ActivityFlow

/-- Why a document could not be loaded from a file. -/
inductive LoadError where
  | workflowsUnreadable (path : String) (fault : FileFault)
  /-- A file that holds no workflows. What the parser says about it is not modelled; it is part
  of the error where it is known. -/
  | workflowsUnsupported (path : String) (said : Option String)
  | configurationUnreadable (path : String) (fault : FileFault)
  | configurationRefused (path : String) (fault : Groups.ConfigurationFault)
  | payloadUnreadable (path : String) (fault : FileFault)
  | payloadMalformed
deriving DecidableEq

/-- The text for a file that holds no workflows. It ends in front of the parser's words if these
are not known. -/
def unsupportedMessage (path : String) (said : Option String) : String :=
  "Unsupported workflow document format in " ++ path ++
    match said with
    | none => ""
    | some text =>
      ": " ++ text ++ ". Expected one of:\n" ++
        "- Single workflow specification with 'name', 'activities', and 'vars' fields\n" ++
        "- Multi-workflow document with workflows under 'workflows' key"

/-- The texts of a load error, from the general one to the root cause. What the parsers of
configurations and payloads say would come last and is left out. -/
def LoadError.messages : LoadError → List String
  | .workflowsUnreadable path fault => ["Failed to read workflow file: " ++ path, fault.message]
  | .workflowsUnsupported path said => [unsupportedMessage path said]
  | .configurationUnreadable path fault =>
    ["Failed to read engine configuration: " ++ path, fault.message]
  | .configurationRefused path fault =>
    ["Invalid engine configuration: " ++ path, fault.message]
  | .payloadUnreadable path fault => ["Failed to read payload file: " ++ path, fault.message]
  | .payloadMalformed => ["payload is not a valid execution payload"]

/-- Reads the workflows in the bytes of a file. An error has what the parser says, if this is
known. -/
def Bundle.ofFile (path : String) (bytes : Except FileFault (List UInt8))
    (said : Option String := none) : Except LoadError Bundle :=
  match bytes with
  | .error fault => .error (.workflowsUnreadable path fault)
  | .ok bytes =>
    match Bundle.parse? (Text.decodeLossy bytes) with
    | some bundle => .ok bundle
    | none => .error (.workflowsUnsupported path said)

def Groups.ofFile (path : String) (bytes : Except FileFault (List UInt8)) :
    Except LoadError Groups :=
  match textOfBytes bytes with
  | .error fault => .error (.configurationUnreadable path fault)
  | .ok text => (Groups.parse text).mapError (.configurationRefused path)

def Payload.ofText (text : String) : Except LoadError Payload :=
  match Payload.parse? text with
  | some payload => .ok payload
  | none => .error .payloadMalformed

def Payload.ofFile (path : String) (bytes : Except FileFault (List UInt8)) :
    Except LoadError Payload :=
  match textOfBytes bytes with
  | .error fault => .error (.payloadUnreadable path fault)
  | .ok text => Payload.ofText text

section
variable {m : Type → Type} [Monad m]

/-- Loads the workflows of a file. -/
def Bundle.load (files : Files m) (path : String) : m (Except LoadError Bundle) := do
  return Bundle.ofFile path (← files path)

def Groups.load (files : Files m) (path : String) : m (Except LoadError Groups) := do
  return Groups.ofFile path (← files path)

/-- Loads the groups of the file that a setting names, or takes the built-in ones if the
setting is missing or blank. -/
def Groups.loadSetting (files : Files m) (setting : Option String) :
    m (Except LoadError Groups) :=
  match setting.map Text.trim with
  | none => return .ok Groups.builtIn
  | some path => if path.isEmpty then return .ok Groups.builtIn else Groups.load files path

/-- Loads a payload from a text, or from a file if the text is a path behind an at sign. -/
def Payload.load (files : Files m) (text : String) : m (Except LoadError Payload) :=
  match text.toList with
  | '@' :: path => do
    let path := String.ofList path
    return Payload.ofFile path (← files path)
  | _ => return Payload.ofText text

end

end ActivityFlow
