import ActivityFlow.FanOut
import ActivityFlow.Payload
import ActivityFlow.Retry
import ActivityFlow.Retry.Attempts

/-!
# Invoking activities

An invocation attempts an activity until an attempt succeeds, fails for good or is the
last one. Each attempt has limited time, and a delay lies between one and the next. The
engine keeps the histories of the invocations that ended last.
-/
namespace ActivityFlow

/-- The result of an activity. -/
abbrev Outcome := Except Failure Json

/-- An activity: what a call does to the outer world, and its result. -/
abbrev Activity (ω : Type) := Call → Routine ω Outcome

def Activity.echo {ω : Type} : Activity ω := fun call => .done (.ok (.object call.params))

/-- The engine's own state beside the outer world that activities act on. -/
structure Engine (ω : Type) where
  /-- How many histories are kept; zero keeps none. -/
  historyLimit : Nat
  /-- The histories of the invocations that ended last, the oldest first. -/
  history : List AttemptRecord
  world : ω

namespace Engine

variable {ω : Type}

/-- How many histories an engine keeps unless told otherwise. -/
def standardHistoryLimit : Nat := 256

/-- An engine before its first invocation. -/
def start (historyLimit : Nat) (world : ω) : Engine ω := ⟨historyLimit, [], world⟩

/-- Appends a history and drops the oldest ones beyond the limit. -/
def keepLast (limit : Nat) (history : List AttemptRecord) (record : AttemptRecord) :
    List AttemptRecord :=
  if limit = 0 then history else history.drop (history.length + 1 - limit) ++ [record]

/-- Keeps the history of an invocation that has ended. -/
def recordHistory (record : AttemptRecord) (engine : Engine ω) : Engine ω :=
  { engine with history := keepLast engine.historyLimit engine.history record }

/-- Hands the histories over and forgets them. -/
def takeHistory (engine : Engine ω) : List AttemptRecord × Engine ω :=
  (engine.history, { engine with history := [] })

def inWorld (p : Routine ω α) : Routine (Engine ω) α :=
  p.focus (·.world) fun world engine => { engine with world }

/-- Ends an invocation: the last stage is entered and the history kept. -/
def conclude (record : AttemptRecord) (last : AttemptStage) (outcome : Outcome) :
    Routine (Engine ω) Outcome :=
  (Routine.modify (recordHistory (record.enter last).1)).map fun _ => outcome

/-- The failure of an attempt that took too long. -/
def overdue (timeout : Span) : Failure := .timedOut (min timeout.wholeMillis (words64 - 1))

/-- The failure of an invocation whose attempts can no longer be counted. -/
def uncounted : Failure := .undiagnosed AttemptFault.counterOverflow.message

/-- The attempts of an invocation from the next one on, of which at most `remaining` can be
counted. -/
def attemptFrom (work : Routine ω Outcome) (options : AttemptOptions) (remaining : Nat)
    (record : AttemptRecord) : Routine (Engine ω) Outcome :=
  match remaining with
  | 0 => .done (.error uncounted)
  | n + 1 =>
    match record.start with
    | (_, .error _) => .done (.error uncounted)
    | (record, .ok attempt) =>
      (Routine.timeout options.timeout.ceilMillis (inWorld work)).bind fun result =>
        match result.getD (.error (overdue options.timeout)) with
        | .ok value => conclude record .succeeded (.ok value)
        | .error failure =>
          if options.retry.retries failure attempt then
            (Routine.sleep (options.retry.delayAfter attempt).ceilMillis).bind fun _ =>
              attemptFrom work options n (record.enter .retrying).1
          else conclude record .failedTerminal (.error failure)

/-- Invokes an activity: attempts it until the outcome is final. -/
def invoke (activity : Activity ω) (call : Call) (options : AttemptOptions) :
    Routine (Engine ω) Outcome :=
  attemptFrom (activity call) options (words32 - 1) (.fresh call.activity)

end Engine

end ActivityFlow
