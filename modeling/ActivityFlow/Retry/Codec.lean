import ActivityFlow.Retry
import ActivityFlow.Retry.Attempts
import ActivityFlow.Failure.Codec

/-!
# Retry settings and histories as documents

Every setting of a policy may be left out and then has its standard value.
-/
namespace ActivityFlow

open Decoding

namespace Span

def encode (d : Span) : Json := .text d.format

end Span

namespace RetryPolicy

/-- Orders a list of kinds by the taxonomy and drops repeated ones. -/
def orderKinds (kinds : List FailureKind) : List FailureKind :=
  FailureKind.all.filter fun kind => kinds.contains kind

def decodeKinds (source : Source) (v : Json) : Result (List FailureKind) :=
  orderKinds <$> asList (FailureKind.decode source) v

def ofFields (source : Source) (fields : Fields) : Result RetryPolicy := do
  let coefficient ← field? fields "backoff_coefficient" asNumber
  let initial ← field? fields "initial_interval" asSpan
  let attempts ← field? fields "maximum_attempts" asWord32
  let maximum ← field? fields "maximum_interval" asSpan
  let kinds ← field? fields "non_retryable_error_kinds" (decodeKinds source)
  return {
    initialInterval := initial.getD standard.initialInterval
    coefficient := coefficient.getD standard.coefficient
    maximumAttempts := attempts.getD standard.maximumAttempts
    maximumInterval := maximum.getD standard.maximumInterval
    finalKinds := kinds.getD standard.finalKinds }

def ofItems (source : Source) (items : List Json) : Result RetryPolicy := do
  let initialInterval ← itemD items 0 standard.initialInterval asSpan
  let coefficient ← itemD items 1 standard.coefficient asNumber
  let maximumAttempts ← itemD items 2 standard.maximumAttempts asWord32
  let maximumInterval ← itemD items 3 standard.maximumInterval asSpan
  let finalKinds ← itemD items 4 standard.finalKinds (decodeKinds source)
  noMore source items 5
  return { initialInterval, coefficient, maximumAttempts, maximumInterval, finalKinds }

def decode (source : Source) : Json → Result RetryPolicy :=
  record "RetryPolicy" (ofFields source) (ofItems source)

def encode (p : RetryPolicy) : Json :=
  .object [
    ("backoff_coefficient", .float p.coefficient),
    ("initial_interval", p.initialInterval.encode),
    ("maximum_attempts", .int p.maximumAttempts),
    ("maximum_interval", p.maximumInterval.encode),
    ("non_retryable_error_kinds", .array (p.finalKinds.map FailureKind.encode))]

end RetryPolicy

namespace AttemptOptions

def ofFields (source : Source) (fields : Fields) : Result AttemptOptions := do
  let retry ← field? fields "retry" (RetryPolicy.decode source)
  let timeout ← field? fields "start_to_close_timeout" asSpan
  return ⟨timeout.getD standard.timeout, retry.getD standard.retry⟩

/-- Reads options from their parts in order. -/
def ofItems (source : Source) (items : List Json) : Result AttemptOptions := do
  let timeout ← itemD items 0 standard.timeout asSpan
  let retry ← itemD items 1 standard.retry (RetryPolicy.decode source)
  noMore source items 2
  return ⟨timeout, retry⟩

def decode (source : Source) : Json → Result AttemptOptions :=
  record "ActivityOptions" (ofFields source) (ofItems source)

def toFields (o : AttemptOptions) : Fields :=
  [("retry", o.retry.encode), ("start_to_close_timeout", o.timeout.encode)]

def encode (o : AttemptOptions) : Json := .object o.toFields

end AttemptOptions

namespace AttemptStage

def decode (source : Source) : Json → Result AttemptStage :=
  asChoice (all.map fun stage => (stage.tag, stage)) source

def encode (stage : AttemptStage) : Json := .text stage.tag

end AttemptStage

namespace AttemptRecord

def ofFields (fields : Fields) : Result AttemptRecord := do
  let activity ← field? fields "activity" asText
  let attempts ← field? fields "attempts" asWord32
  let stages ← field? fields "transitions" (asList (AttemptStage.decode .direct))
  return {
    activity := ← required "activity" activity
    attempts := ← required "attempts" attempts
    stages := ← required "transitions" stages }

/-- Reads a history from its parts in order. -/
def ofItems (items : List Json) : Result AttemptRecord := do
  let shape := Shape.recordOf "AttemptTracker" 3
  let activity ← item items 0 shape asText
  let attempts ← item items 1 shape asWord32
  let stages ← item items 2 shape (asList (AttemptStage.decode .direct))
  noMore .direct items 3
  return { activity, attempts, stages }

def decode : Json → Result AttemptRecord := record "AttemptTracker" ofFields ofItems

def encode (r : AttemptRecord) : Json :=
  .object [
    ("activity", .text r.activity),
    ("attempts", .int r.attempts),
    ("transitions", .array (r.stages.map AttemptStage.encode))]

end AttemptRecord

end ActivityFlow
