import ActivityFlow.Failure
import ActivityFlow.Span
import ActivityFlow.Decimal.Rounding
import ActivityFlow.Decimal.Notation

/-!
# Retrying

A retry policy decides whether a failed attempt is followed by another one and after
which delay. Delays grow by a constant factor up to a longest delay.
-/
namespace ActivityFlow

/-- When and how often an activity is attempted again. -/
structure RetryPolicy where
  initialInterval : Span
  /-- The factor from one delay to the next. -/
  coefficient : Float
  /-- How many attempts there may be, the first one included; zero means any number. -/
  maximumAttempts : Nat
  maximumInterval : Span
  /-- The kinds of failure that no attempt follows, in the order of the taxonomy. -/
  finalKinds : List FailureKind
deriving DecidableEq

/-- Why a retry policy makes no sense. -/
inductive PolicyFault where
  | coefficient (value : Float)
  | intervals (maximum initial : Span)
deriving DecidableEq

def PolicyFault.message : PolicyFault → String
  | .coefficient value =>
    "backoff_coefficient must be a finite number >= 1.0, got " ++
      Decimal.render Decimal.messageLayout value
  | .intervals maximum initial =>
    "maximum_interval (" ++ maximum.describe ++ ") is shorter than initial_interval (" ++
      initial.describe ++ ")"

namespace Span

/-- A span in seconds, as a floating point number. -/
def toFloat (d : Span) : Float :=
  d.wholeSeconds.toUInt64.toFloat + d.subNanos.toUInt64.toFloat / 1000000000

/-- The span nearest to a number of seconds, if it is one. -/
def ofFloat? (x : Float) : Option Span := (Decimal.roundedUnits? x (nanosPerSecond)).bind ofNanos?

end Span

/-- Multiplies the squares of `base` that the bits of `exponent` name into `product`. -/
def powerLoop (bits : Nat) (product base : Float) (exponent : Nat) : Float :=
  match bits with
  | 0 => product
  | n + 1 =>
    let product := if exponent % 2 = 1 then product * base else product
    if exponent / 2 = 0 then product else powerLoop n product (base * base) (exponent / 2)

/-- A power with an exponent of at most 31 bits, by repeated squaring. -/
def power (base : Float) (exponent : Nat) : Float := powerLoop 31 1 base exponent

/-- The smaller of two numbers; a number wins over no number. -/
def lesser (a b : Float) : Float :=
  if a.isNaN then b else if b.isNaN then a else if b < a then b else a

namespace RetryPolicy

/-- The policy of groups that set none. -/
def standard : RetryPolicy where
  initialInterval := .seconds 1
  coefficient := 2
  maximumAttempts := 10
  maximumInterval := .seconds 100
  finalKinds := FailureKind.all

instance : Inhabited RetryPolicy := ⟨standard⟩

/-- The policy that gives up after the first failure. -/
def single : RetryPolicy := { standard with maximumAttempts := 1 }

/-- Whether a policy makes sense: its factor is finite and at least one, and its longest
delay is no shorter than the first. -/
def validate (p : RetryPolicy) : Except PolicyFault Unit :=
  if !p.coefficient.isFinite || p.coefficient < 1 then .error (.coefficient p.coefficient)
  else if p.maximumInterval.shorterThan p.initialInterval then
    .error (.intervals p.maximumInterval p.initialInterval)
  else .ok ()

/-- The delay after a failed attempt, counted from one: the first delay times a power of
the factor, but at most the longest delay. What is no span of time is the longest delay. -/
def delayAfter (p : RetryPolicy) (attempt : Nat) : Span :=
  let exponent := min (attempt - 1) 2147483647
  let seconds := p.initialInterval.toFloat * power p.coefficient exponent
  (Span.ofFloat? (lesser seconds p.maximumInterval.toFloat)).getD p.maximumInterval

/-- Whether another attempt follows a failed one, counted from one. Only the kind of the
failure matters. -/
def retries (p : RetryPolicy) (failure : Failure) (attempt : Nat) : Bool :=
  match failure.kind? with
  | some kind =>
    !p.finalKinds.contains kind && (p.maximumAttempts == 0 || attempt < p.maximumAttempts)
  | none => p.maximumAttempts == 0 || attempt < p.maximumAttempts

end RetryPolicy

/-- How activities of a group are attempted. -/
structure AttemptOptions where
  /-- The time that one attempt may take. -/
  timeout : Span
  retry : RetryPolicy
deriving DecidableEq

namespace AttemptOptions

/-- The options of groups that set none. -/
def standard : AttemptOptions := ⟨.seconds 300, .standard⟩

instance : Inhabited AttemptOptions := ⟨standard⟩

/-- The options for activities that may take hours. -/
def longRunning : AttemptOptions where
  timeout := .seconds 7200
  retry := { RetryPolicy.standard with
    initialInterval := .seconds 5
    maximumAttempts := 20
    maximumInterval := .seconds 600 }

end AttemptOptions

end ActivityFlow
