import ActivityFlow.Bindings

/-!
# Jobs

A job calls one activity for each of several things, all side by side, and ends with the
results in the order of the things or with a failure that names the place of its thing.
-/
namespace ActivityFlow

variable {ω : Type}

/-- One call of a job's activity for each of several parameter objects, all side by side.
A failure is reported with the place of its parameters. -/
def callEach (job : String) (binding : Binding ω) (payload : Payload) (params : List Fields) :
    Routine (Engine ω) (Except RunFailure (List Json)) :=
  FanOut.allOrFirstFailure (params.mapIdx fun index fields =>
    (binding.callIn job payload fields).map fun result =>
      result.mapError (.activity job index binding.name))

end ActivityFlow
