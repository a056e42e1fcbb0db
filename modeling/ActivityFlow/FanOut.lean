import ActivityFlow.Routine

/-!
# Fan-out

Several routines run side by side on one state. Merging them gives a feed: the actions of
all of them in the order in which they happen, with an event for each routine that ends.
A policy reads the feed and decides when the whole is over and with what; what stands
behind that point in the feed never happens.
-/
namespace ActivityFlow

/-- The merged actions of several routines. -/
inductive Feed (σ ε : Type) : Type where
  | over
  | emit (event : ε) (next : Feed σ ε)
  | pause (due turn : Nat) (next : Feed σ ε)
  | act (effect : Clock → σ → σ) (next : Clock → σ → Feed σ ε)

/-- Which of several routines that are due in the same millisecond goes first. -/
inductive Precedence where
  /-- The one earlier in the input. -/
  | input
  /-- The one whose pause was begun earlier. -/
  | arrival
deriving DecidableEq

/-- Whether the left one of two paused routines goes first. -/
def Precedence.leftFirst (precedence : Precedence) (due turn due' turn' : Nat) : Bool :=
  match precedence with
  | .input => due ≤ due'
  | .arrival => due < due' || (due == due' && turn ≤ turn')

namespace Feed

variable {σ ε : Type}

def ofRoutine (index : Nat) : Routine σ α → Feed σ (Nat × α)
  | .done value => .emit (index, value) .over
  | .pause due turn next => .pause due turn (ofRoutine index next)
  | .act effect next => .act effect fun clock state => ofRoutine index (next clock state)

/-- Merges a paused feed with a second one. `resume` merges what follows the pause with
what is left of the second feed by then. -/
def mergePaused (precedence : Precedence) (due turn : Nat) (resume : Feed σ ε → Feed σ ε) :
    Feed σ ε → Feed σ ε
  | .over => .pause due turn (resume .over)
  | .emit event next => .emit event (mergePaused precedence due turn resume next)
  | .act effect next =>
    .act effect fun clock state => mergePaused precedence due turn resume (next clock state)
  | .pause due' turn' next =>
    if precedence.leftFirst due turn due' turn' then
      .pause due turn (resume (.pause due' turn' next))
    else .pause due' turn' (mergePaused precedence due turn resume next)

/-- Merges two feeds. A feed that can act does so, the left one first; of two paused ones
the one that is due first goes on. -/
def merge (precedence : Precedence) : Feed σ ε → Feed σ ε → Feed σ ε
  | .over, right => right
  | .emit event next, right => .emit event (merge precedence next right)
  | .act effect next, right =>
    .act effect fun clock state => merge precedence (next clock state) right
  | .pause due turn next, right => mergePaused precedence due turn (merge precedence next) right

/-- Merges routines from the given place of the input on. -/
def mergeFrom (precedence : Precedence) (index : Nat) : List (Routine σ α) → Feed σ (Nat × α)
  | [] => .over
  | p :: rest => merge precedence (ofRoutine index p) (mergeFrom precedence (index + 1) rest)

/-- Merges routines in the order of the input. -/
def ofRoutines (precedence : Precedence) (ps : List (Routine σ α)) : Feed σ (Nat × α) :=
  mergeFrom precedence 0 ps

/-! ## Policies -/

/-- Waits for the end of the feed and collects all events. -/
def collect (seen : List ε) : Feed σ ε → Routine σ (List ε)
  | .over => .done seen
  | .emit event next => next.collect (seen ++ [event])
  | .pause due turn next => .pause due turn (next.collect seen)
  | .act effect next => .act effect fun clock state => (next clock state).collect seen

/-- Ends with the first failure of the feed, or collects all values. -/
def untilFailure (seen : List (Nat × α)) :
    Feed σ (Nat × Except φ α) → Routine σ (Except φ (List (Nat × α)))
  | .over => .done (.ok seen)
  | .emit (index, .ok value) next => next.untilFailure (seen ++ [(index, value)])
  | .emit (_, .error failure) _ => .done (.error failure)
  | .pause due turn next => .pause due turn (next.untilFailure seen)
  | .act effect next => .act effect fun clock state => (next clock state).untilFailure seen

/-- The first failure in the order of the input among results without a gap, starting at
the given place. -/
def firstSettledFailure (seen : List (Nat × Except φ α)) (place fuel : Nat) : Option φ :=
  match fuel with
  | 0 => none
  | n + 1 =>
    match seen.lookup place with
    | none => none
    | some (.error failure) => some failure
    | some (.ok _) => firstSettledFailure seen (place + 1) n

/-- Ends with the first failure in the order of the input, once all before it have ended,
or collects all results. -/
def untilOrderedFailure (seen : List (Nat × Except φ α)) :
    Feed σ (Nat × Except φ α) → Routine σ (Except φ (List (Nat × Except φ α)))
  | .over => .done (.ok seen)
  | .emit event next =>
    let seen := seen ++ [event]
    match firstSettledFailure seen 0 seen.length with
    | some failure => .done (.error failure)
    | none => next.untilOrderedFailure seen
  | .pause due turn next => .pause due turn (next.untilOrderedFailure seen)
  | .act effect next => .act effect fun clock state => (next clock state).untilOrderedFailure seen

end Feed

namespace FanOut

variable {σ α φ : Type}

/-- Up to this many routines are looked at one after the other each time; more are looked
at as they become ready. -/
def smallSize : Nat := 30

/-- Which routine goes first depends on how many there are. -/
def precedence (size : Nat) : Precedence := if size ≤ smallSize then .input else .arrival

def inOrder (size : Nat) (events : List (Nat × α)) : List α :=
  (List.range size).filterMap fun index => events.lookup index

/-- The outcome of a fan-out that waits for everything, with places in the input. -/
structure Report (φ α : Type) where
  successes : List (Nat × α)
  failures : List (Nat × φ)
deriving DecidableEq

namespace Report

def ofResults (index : Nat) : List (Except φ α) → Report φ α
  | [] => ⟨[], []⟩
  | .ok value :: rest =>
    let report := ofResults (index + 1) rest
    { report with successes := (index, value) :: report.successes }
  | .error failure :: rest =>
    let report := ofResults (index + 1) rest
    { report with failures := (index, failure) :: report.failures }

/-- Whether nothing failed. -/
def isComplete (r : Report φ α) : Bool := r.failures.isEmpty

/-- How many results there are. -/
def total (r : Report φ α) : Nat := r.successes.length + r.failures.length

end Report

/-- Runs routines side by side until all have ended. -/
def settleAll (ps : List (Routine σ (Except φ α))) : Routine σ (Report φ α) :=
  ((Feed.ofRoutines (precedence ps.length) ps).collect []).map fun events =>
    Report.ofResults 0 (inOrder ps.length events)

def success? : Except φ α → Option α
  | .ok value => some value
  | .error _ => none

/-- Runs routines side by side until all have succeeded or one has failed. In a small
fan-out the first failure ends everything; in a large one the failures count in the order
of the input. -/
def allOrFirstFailure (ps : List (Routine σ (Except φ α))) : Routine σ (Except φ (List α)) :=
  let feed := Feed.ofRoutines (precedence ps.length) ps
  if ps.length ≤ smallSize then
    (feed.untilFailure []).map fun result => result.map (inOrder ps.length)
  else
    (feed.untilOrderedFailure []).map fun result =>
      result.map fun events => (inOrder ps.length events).filterMap success?

end FanOut

end ActivityFlow
