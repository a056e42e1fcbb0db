import ActivityFlow.Words

/-!
# Attempts

The history of one activity invocation: the stages that it went through and the number of
attempts. A stage may follow another only as the table of `AttemptStage.allows` says.
-/
namespace ActivityFlow

/-- The stages of an invocation. -/
inductive AttemptStage where
  | pending
  | attempting
  | retrying
  | succeeded
  | failedTerminal
deriving DecidableEq, Repr

namespace AttemptStage

/-- All stages. -/
def all : List AttemptStage := [pending, attempting, retrying, succeeded, failedTerminal]

/-- The name of a stage in documents. -/
def tag : AttemptStage → String
  | pending => "pending"
  | attempting => "attempting"
  | retrying => "retrying"
  | succeeded => "succeeded"
  | failedTerminal => "failed_terminal"

/-- The name of a stage in messages. -/
def title : AttemptStage → String
  | pending => "Pending"
  | attempting => "Attempting"
  | retrying => "Retrying"
  | succeeded => "Succeeded"
  | failedTerminal => "FailedTerminal"

/-- Which stages may follow a stage. -/
def allows : AttemptStage → AttemptStage → Bool
  | pending, attempting => true
  | attempting, succeeded => true
  | attempting, retrying => true
  | attempting, failedTerminal => true
  | retrying, attempting => true
  | _, _ => false

/-- Whether an invocation ends in a stage. -/
def isTerminal : AttemptStage → Bool
  | succeeded | failedTerminal => true
  | pending | attempting | retrying => false

/-- Nothing follows a stage that an invocation ends in. -/
theorem not_allows_of_isTerminal {stage : AttemptStage} (h : stage.isTerminal = true)
    (next : AttemptStage) : stage.allows next = false := by
  cases stage <;> cases next <;> simp_all [isTerminal, allows]

end AttemptStage

/-- The history of one invocation. -/
structure AttemptRecord where
  activity : String
  /-- A number of 32 bits. -/
  attempts : Nat
  stages : List AttemptStage
deriving DecidableEq

/-- What cannot be entered into a history. -/
inductive AttemptFault where
  | illegalTransition (current next : AttemptStage)
  | counterOverflow
deriving DecidableEq

def AttemptFault.message : AttemptFault → String
  | .illegalTransition current next =>
    "illegal attempt transition " ++ current.title ++ " -> " ++ next.title
  | .counterOverflow => "attempt to add with overflow"

/-- What can happen to an invocation. -/
inductive AttemptEvent where
  | start
  | retry
  | succeed
  | fail
deriving DecidableEq

namespace AttemptRecord

/-- The history of an invocation that has not begun. -/
def fresh (activity : String) : AttemptRecord := ⟨activity, 0, [.pending]⟩

def stage (r : AttemptRecord) : AttemptStage := r.stages.getLastD .pending

/-- Enters a stage, if it may follow the current one. -/
def advance (r : AttemptRecord) (next : AttemptStage) : Except AttemptFault AttemptRecord :=
  if r.stage.allows next then .ok { r with stages := r.stages ++ [next] }
  else .error (.illegalTransition r.stage next)

/-- Begins an attempt and returns its number, counted from one. If the counter is full the
stage is entered all the same and the number stays. -/
def start (r : AttemptRecord) : AttemptRecord × Except AttemptFault Nat :=
  match r.advance .attempting with
  | .error fault => (r, .error fault)
  | .ok s =>
    if s.attempts + 1 < words32 then ({ s with attempts := s.attempts + 1 }, .ok (s.attempts + 1))
    else (s, .error .counterOverflow)

/-- Enters a stage; the history stays as it was if the stage may not follow. -/
def enter (r : AttemptRecord) (next : AttemptStage) :
    AttemptRecord × Except AttemptFault (Option Nat) :=
  match r.advance next with
  | .error fault => (r, .error fault)
  | .ok s => (s, .ok none)

/-- Enters an event. The start of an attempt answers with its number. -/
def handle (r : AttemptRecord) : AttemptEvent → AttemptRecord × Except AttemptFault (Option Nat)
  | .start => (r.start.1, r.start.2.map some)
  | .retry => r.enter .retrying
  | .succeed => r.enter .succeeded
  | .fail => r.enter .failedTerminal

@[simp] theorem stage_fresh (activity : String) : (fresh activity).stage = .pending := rfl

/-- The stage entered last is the current one. -/
@[simp] theorem stage_append (activity : String) (n : Nat) (stages : List AttemptStage)
    (next : AttemptStage) : (AttemptRecord.mk activity n (stages ++ [next])).stage = next := by
  simp [stage]

end AttemptRecord

end ActivityFlow
