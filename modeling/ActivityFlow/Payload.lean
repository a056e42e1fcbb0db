import ActivityFlow.Failure
import ActivityFlow.Text.Quoted

/-!
# Payloads and calls

A payload travels unchanged through a workflow run. Every activity receives it inside a
call, which adds the workflow's name, the activity's name and the parameters.
-/
namespace ActivityFlow

/-- Where the services of an execution are, with further settings that only activities
look at. -/
structure ServiceSettings where
  studioUrl : Option String
  storeUrl : Option String
  extra : Fields
deriving DecidableEq

instance : Inhabited ServiceSettings := ⟨⟨none, none, []⟩⟩

/-- What a workflow run is started with. -/
structure Payload where
  /-- The credential for the content store. -/
  authToken : Option String
  accountId : String
  projectId : String
  config : ServiceSettings
  /-- The documents that the run is about, in the order of the trigger. -/
  objectIds : List String
  vars : Fields
  /-- The name of the event that triggered the run. -/
  event : String
deriving DecidableEq

instance : Inhabited Payload := ⟨⟨none, "", "", default, [], [], ""⟩⟩

namespace Payload

/-- The payload with other variables. -/
def withVars (p : Payload) (vars : Fields) : Payload := { p with vars }

/-- Agreement of payloads where numbers are compared as numbers. -/
def agrees (a b : Payload) : Bool :=
  a.authToken == b.authToken && a.accountId == b.accountId && a.projectId == b.projectId &&
    a.config.studioUrl == b.config.studioUrl && a.config.storeUrl == b.config.storeUrl &&
    Json.agreesFields a.config.extra b.config.extra && a.objectIds == b.objectIds &&
    Json.agreesFields a.vars b.vars && a.event == b.event

end Payload

structure Call where
  payload : Payload
  workflow : String
  activity : String
  params : Fields
deriving DecidableEq

instance : Inhabited Call := ⟨⟨default, "", "", []⟩⟩

namespace Call

def param? (c : Call) (name : String) : Option Json := Fields.get? c.params name

/-- A parameter that the activity cannot do without. -/
def requireParam (c : Call) (name : String) : Except Diagnosis Json :=
  ActivityFlow.requireParam c.params c.activity name

/-- A text parameter that the activity cannot do without. -/
def requireText (c : Call) (name : String) : Except Diagnosis String := do
  match ← c.requireParam name with
  | .text s => return s
  | _ => throw (.activityParamInvalid c.activity name "expected a string")

end Call

/-! ## Diagnostic text

Payloads are shown with their credential blanked out. -/

/-- A comma-separated list between brackets of some kind. -/
def listing (openWith closeWith : String) (parts : List String) : String :=
  openWith ++ String.intercalate ", " parts ++ closeWith

def recordListing (name : String) (parts : List (String × String)) : String :=
  name ++ listing " \x7b " " \x7d" (parts.map fun p => p.1 ++ ": " ++ p.2)

/-- A text that may be missing. -/
def optionListing (describe : α → String) : Option α → String
  | none => "None"
  | some value => "Some(" ++ describe value ++ ")"

namespace Json

/-- The name of a number's form with the number. -/
def numberListing (digits : String) : String := "Number(" ++ digits ++ ")"

mutual

/-- A document with the name of each form. -/
def listing : Json → String
  | .null => "Null"
  | .bool b => "Bool(" ++ (if b then "true" else "false") ++ ")"
  | .int n => numberListing (toString n)
  | .float x => numberListing (String.ofList (floatChars x))
  | .text s => "String(" ++ Text.quoted s ++ ")"
  | .array items => ActivityFlow.listing "Array [" "]" (itemListings items)
  | .object fields => "Object " ++ ActivityFlow.listing "\x7b" "\x7d" (entryListings fields)

def itemListings : List Json → List String
  | [] => []
  | item :: rest => listing item :: itemListings rest

/-- The entries of an object. -/
def entryListings : List (String × Json) → List String
  | [] => []
  | (key, value) :: rest => (Text.quoted key ++ ": " ++ listing value) :: entryListings rest

end

end Json

/-- The entries of an object, without a name for the whole. -/
def fieldsListing (fields : Fields) : String := listing "\x7b" "\x7d" (Json.entryListings fields)

/-- What stands in place of a credential. -/
def redacted : String := Text.quoted "<redacted>"

def ServiceSettings.describe (c : ServiceSettings) : String :=
  recordListing "PayloadConfig" [
    ("studio_url", optionListing Text.quoted c.studioUrl),
    ("store_url", optionListing Text.quoted c.storeUrl),
    ("extra", fieldsListing c.extra)]

def Payload.describe (p : Payload) : String :=
  recordListing "ExecutionPayload" [
    ("auth_token", optionListing (fun _ => redacted) p.authToken),
    ("account_id", Text.quoted p.accountId),
    ("project_id", Text.quoted p.projectId),
    ("config", p.config.describe),
    ("object_ids", listing "[" "]" (p.objectIds.map Text.quoted)),
    ("vars", fieldsListing p.vars),
    ("event", Text.quoted p.event)]

end ActivityFlow
