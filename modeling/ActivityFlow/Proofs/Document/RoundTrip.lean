import ActivityFlow.Proofs.Document.Records
import ActivityFlow.Proofs.Document.Retry
import ActivityFlow.Proofs.Document.Workflow

/-!
# Round trips

Every kind of document that the program reads and writes comes back unchanged: what was
decoded, from whichever of its admitted forms, is encoded in one form from which exactly the
same value is decoded.
-/
namespace ActivityFlow

open Decoding

/-- The kinds of documents. -/
inductive Format where
  | failureKind
  | diagnosis
  | failure
  | serviceSettings
  | payload
  | call
  | step
  | workflow
  | bundle
  | runRequest
  | recordRequest
  | collectionQuery
  | retryPolicy
  | attemptOptions
  | group
  | groups
  | attemptStage
  | attemptRecord
deriving DecidableEq

namespace Format

/-- The values that documents of a kind stand for. -/
abbrev Carrier : Format → Type
  | failureKind => FailureKind
  | diagnosis => Diagnosis
  | failure => Failure
  | serviceSettings => ServiceSettings
  | payload => Payload
  | call => Call
  | step => Step
  | workflow => Workflow
  | bundle => Bundle
  | runRequest => RunRequest
  | recordRequest => RecordRequest
  | collectionQuery => CollectionQuery
  | retryPolicy => RetryPolicy
  | attemptOptions => AttemptOptions
  | group => Group
  | groups => Groups
  | attemptStage => AttemptStage
  | attemptRecord => AttemptRecord

/-- Reads a document of a kind. -/
def decode : (format : Format) → Json → Result format.Carrier
  | failureKind => FailureKind.decode .direct
  | diagnosis => Diagnosis.decode .direct
  | failure => Failure.decode
  | serviceSettings => ServiceSettings.decode
  | payload => Payload.decode
  | call => Call.decode
  | step => Step.decode
  | workflow => Workflow.decode
  | bundle => Bundle.decode
  | runRequest => RunRequest.decode
  | recordRequest => RecordRequest.decode
  | collectionQuery => CollectionQuery.decode
  | retryPolicy => RetryPolicy.decode .direct
  | attemptOptions => AttemptOptions.decode .direct
  | group => Group.decode
  | groups => Groups.decode
  | attemptStage => AttemptStage.decode .direct
  | attemptRecord => AttemptRecord.decode

def encode : (format : Format) → format.Carrier → Json
  | failureKind => FailureKind.encode
  | diagnosis => Diagnosis.encode
  | failure => Failure.encode
  | serviceSettings => ServiceSettings.encode
  | payload => Payload.encode
  | call => Call.encode
  | step => Step.encode
  | workflow => Workflow.encode
  | bundle => Bundle.encode
  | runRequest => RunRequest.encode
  | recordRequest => RecordRequest.encode
  | collectionQuery => CollectionQuery.encode
  | retryPolicy => RetryPolicy.encode
  | attemptOptions => AttemptOptions.encode
  | group => Group.encode
  | groups => Groups.encode
  | attemptStage => AttemptStage.encode
  | attemptRecord => AttemptRecord.encode

/-- The decoder of every kind is faithful to its encoder. -/
theorem exists_faithful (format : Format) :
    ∃ Valid, Faithful format.decode format.encode Valid := by
  cases format with
  | failureKind => exact ⟨_, FailureKind.faithful .direct⟩
  | diagnosis => exact ⟨_, Diagnosis.faithful .direct⟩
  | failure => exact ⟨_, Failure.faithful⟩
  | serviceSettings => exact ⟨_, ServiceSettings.faithful⟩
  | payload => exact ⟨_, Payload.faithful⟩
  | call => exact ⟨_, Call.faithful⟩
  | step => exact ⟨_, Step.faithful⟩
  | workflow => exact ⟨_, Workflow.faithful⟩
  | bundle => exact ⟨_, Bundle.faithful⟩
  | runRequest => exact ⟨_, RunRequest.faithful⟩
  | recordRequest => exact ⟨_, RecordRequest.faithful⟩
  | collectionQuery => exact ⟨_, CollectionQuery.faithful⟩
  | retryPolicy => exact ⟨_, RetryPolicy.faithful .direct⟩
  | attemptOptions => exact ⟨_, AttemptOptions.faithful .direct⟩
  | group => exact ⟨_, Group.faithful⟩
  | groups => exact ⟨_, Groups.faithful⟩
  | attemptStage => exact ⟨_, AttemptStage.faithful .direct⟩
  | attemptRecord => exact ⟨_, AttemptRecord.faithful⟩

/-- What is decoded from a document is encoded as a document again, and the same value is
decoded from that. -/
theorem decode_encode_of_decode (format : Format) (v : Json) (x : format.Carrier)
    (hv : v.WellFormed) (h : format.decode v = .ok x) :
    (format.encode x).WellFormed ∧ format.decode (format.encode x) = .ok x := by
  obtain ⟨Valid, hfaithful⟩ := exists_faithful format
  exact hfaithful.round_trip hv h

/-- A group whose policy is an array, whose spans are a text and a number of seconds, and
which lists no activities. -/
theorem decode_encode_of_decode_group :
    let v : Json := .object [("retry", .array [.text "1500ms", .int 2]),
      ("start_to_close_timeout", .int 5400)]
    let g : Group := ⟨⟨.seconds 5400, { RetryPolicy.standard with
      initialInterval := ⟨1500000000, by decide⟩, coefficient := floatOfInt 2 }⟩, []⟩
    v.WellFormed ∧ decode .group v = .ok g ∧ decode .group (encode .group g) = .ok g := by
  intro v g
  have hv : v.WellFormed := by
    refine Fields.WellFormed.of_keys ["retry", "start_to_close_timeout"] rfl (by decide)
      ⟨.array ?_, .nat (n := 5400) (by decide), trivial⟩
    intro item hitem
    rcases List.mem_cons.mp hitem with rfl | hitem
    · exact .text _
    · obtain rfl := List.mem_singleton.mp hitem
      exact .nat (n := 2) (by decide)
  have hdecode : decode .group v = .ok g := by
    rfl
  exact ⟨hv, hdecode, (decode_encode_of_decode .group v g hv hdecode).2⟩

end Format

end ActivityFlow
