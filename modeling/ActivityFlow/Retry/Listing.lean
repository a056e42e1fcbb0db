import ActivityFlow.Payload
import ActivityFlow.Retry

/-!
# Diagnostic text of attempt options
-/
namespace ActivityFlow

def RetryPolicy.describe (p : RetryPolicy) : String :=
  recordListing "RetryPolicy" [
    ("initial_interval", p.initialInterval.describe),
    ("backoff_coefficient", Decimal.render Decimal.diagnosticLayout p.coefficient),
    ("maximum_attempts", toString p.maximumAttempts),
    ("maximum_interval", p.maximumInterval.describe),
    ("non_retryable_error_kinds", listing "\x7b" "\x7d" (p.finalKinds.map FailureKind.title))]

def AttemptOptions.describe (o : AttemptOptions) : String :=
  recordListing "ActivityOptions" [
    ("start_to_close_timeout", o.timeout.describe),
    ("retry", o.retry.describe)]

end ActivityFlow
