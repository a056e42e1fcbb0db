import ActivityFlow.Failure
import ActivityFlow.Decoding

/-!
# Failures as documents

A diagnosis is a record of its four parts. A failure is written as the record of its own
parts with a tag that names its form.
-/
namespace ActivityFlow

open Decoding

namespace FailureKind

def decode (source : Source) : Json → Result FailureKind :=
  asChoice (all.map fun kind => (kind.tag, kind)) source

def encode (kind : FailureKind) : Json := .text kind.tag

end FailureKind

namespace Diagnosis

def ofFields (source : Source) (fields : Fields) : Result Diagnosis := do
  let details ← field? fields "fields" asFields
  let kind ← field? fields "kind" (FailureKind.decode source)
  let text ← field? fields "message" asText
  let retryable ← field? fields "retryable" asBool
  return {
    kind := ← required "kind" kind
    text := ← required "message" text
    retryable := retryable.getD false
    details := details.getD [] }

def ofItems (source : Source) (items : List Json) : Result Diagnosis := do
  let whole := Shape.recordOf "ClassifiedError" 4
  let kind ← item items 0 whole (FailureKind.decode source)
  let text ← item items 1 whole asText
  let retryable ← itemD items 2 false asBool
  let details ← itemD items 3 [] asFields
  noMore source items 4
  return ⟨kind, text, retryable, details⟩

def decode (source : Source) : Json → Result Diagnosis :=
  record "ClassifiedError" (ofFields source) (ofItems source)

def toFields (d : Diagnosis) : Fields :=
  [("fields", .object d.details), ("kind", d.kind.encode), ("message", .text d.text),
    ("retryable", .bool d.retryable)]

def encode (d : Diagnosis) : Json := .object d.toFields

end Diagnosis

namespace Failure

inductive Form where
  | diagnosed
  | undiagnosed
  | timedOut
deriving DecidableEq

def forms : List (String × Form) :=
  [("classified", .diagnosed), ("unclassified", .undiagnosed), ("timed_out", .timedOut)]

/-- Reads the tag of a failure. -/
def decodeForm : Json → Result Form
  | .text name => named forms name
  | v => .error (.wrongType v .choiceName)

def ofFields (form : Form) (fields : Fields) : Result Failure :=
  match form with
  | .diagnosed => diagnosed <$> Diagnosis.ofFields .aside fields
  | .undiagnosed => do
    return undiagnosed (← required "message" (← field? fields "message" asText))
  | .timedOut => do
    return timedOut (← required "timeout_ms" (← field? fields "timeout_ms" asWord64))

def ofItems (form : Form) (items : List Json) : Result Failure :=
  match form with
  | .diagnosed => diagnosed <$> Diagnosis.ofItems .aside items
  | .undiagnosed => do
    let message ← item items 0 (.caseOf "ActivityFailure::Unclassified" 1) asText
    noMore .aside items 1
    return undiagnosed message
  | .timedOut => do
    let millis ← item items 0 (.caseOf "ActivityFailure::TimedOut" 1) asWord64
    noMore .aside items 1
    return timedOut millis

/-- Reads a failure: an object with its tag among the entries, or an array that begins
with the tag. -/
def decode : Json → Result Failure
  | .object fields => do
    let form ← required "type" (← field? fields "type" decodeForm)
    ofFields form (Fields.erase fields "type")
  | .array [] => .error (.missingField "type")
  | .array (tag :: items) => do
    let form ← decodeForm tag
    ofItems form items
  | v => .error (.wrongType v (.union "ActivityFailure"))

def encode : Failure → Json
  | diagnosed d => .object (Fields.insert d.toFields "type" (.text "classified"))
  | undiagnosed text => .object [("message", .text text), ("type", .text "unclassified")]
  | timedOut millis => .object [("timeout_ms", .int millis), ("type", .text "timed_out")]

end Failure

end ActivityFlow
