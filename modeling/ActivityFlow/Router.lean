import ActivityFlow.Bindings
import ActivityFlow.Pattern.Reader

/-!
# Routers

A router picks one of several activities by an attribute of the matter at hand, such as its
media type. Guarded routes are tried in order, and the last one admits everything, so that
every attribute has a destination.
-/
namespace ActivityFlow

/-- A condition on an attribute, which may be missing. -/
inductive Guard where
  /-- Admits everything. -/
  | any
  /-- Admits a present attribute in which the pattern occurs. -/
  | pattern (p : Pattern)
deriving DecidableEq

namespace Guard

def ofPattern (text : String) : Except SetupError Guard :=
  match Pattern.parse? text with
  | some p => .ok (.pattern p)
  | none => .error (.invalidPattern text)

def admits (g : Guard) (label : Option String) : Bool :=
  match g with
  | any => true
  | pattern p => label.any p.occursIn

end Guard

/-- How the activity of a route is chosen. -/
inductive Target where
  | fixed (activity : String)
  /-- One activity if a variable is set to something, another one otherwise. -/
  | switch (var whenSet otherwise : String)
deriving DecidableEq

namespace Target

/-- The activity of a target under given variables. -/
def choose (t : Target) (vars : Fields) : String :=
  match t with
  | fixed activity => activity
  | switch var whenSet otherwise =>
    if (Fields.get? vars var).any Json.isTruthy then whenSet else otherwise

def names : Target → List String
  | fixed activity => [activity]
  | switch _ whenSet otherwise => [whenSet, otherwise]

/-- The chosen activity is one of the target's. -/
theorem choose_mem_names (t : Target) (vars : Fields) : t.choose vars ∈ t.names := by
  cases t with
  | fixed activity => simp [choose, names]
  | switch var whenSet otherwise =>
    simp only [choose, names]
    split <;> simp

end Target

/-- Where a route leads. -/
structure Destination where
  target : Target
  /-- Parameters that win over those of the caller. -/
  params : Fields
deriving DecidableEq

/-- A guarded destination. -/
structure Route where
  guard : Guard
  destination : Destination
deriving DecidableEq

/-- Routes in the order in which they are tried. -/
structure Router where
  name : String
  routes : List Route
  nonempty : routes ≠ []
deriving DecidableEq

/-- What a router picked, with the place of the route. -/
structure Selection where
  index : Nat
  activity : String
  params : Fields
deriving DecidableEq

namespace Router

/-- Builds a router from routes of which the last one admits everything. -/
def build (name : String) (routes : List Route) : Except SetupError Router :=
  if h : routes = [] then .error (.missingFallback name)
  else
    match (routes.getLast h).guard with
    | .any => .ok ⟨name, routes, h⟩
    | .pattern _ => .error (.missingFallback name)

/-- Appends names that are not there yet. -/
def addNames (known : List String) (names : List String) : List String :=
  names.foldl (fun known name => if known.contains name then known else known ++ [name]) known

/-- Every activity that the router can pick, in the order of the routes. -/
def activityNames (r : Router) : List String :=
  addNames [] (r.routes.flatMap fun route => route.destination.target.names)

/-- Checks that every activity that can be picked is bound. -/
def check {ω : Type} (r : Router) (bindings : Bindings ω) : Except SetupError Unit :=
  match r.activityNames.find? fun name => !bindings.contains name with
  | some name => .error (.unknownActivity name)
  | none => .ok ()

/-- What a destination amounts to under given variables. -/
def arrive (vars : Fields) (index : Nat) (d : Destination) : Selection :=
  ⟨index, d.target.choose vars, d.params⟩

/-- The first route that admits an attribute, with its place. -/
def search (r : Router) (label : Option String) : Option (Route × Nat) :=
  r.routes.zipIdx.find? fun (route, _) => route.guard.admits label

/-- Picks the activity of the route that is found. The last route stands in for one that is
not, which does not happen to a router that was built. -/
def select (r : Router) (label : Option String) (vars : Fields) : Selection :=
  let (route, index) :=
    (r.search label).getD (r.routes.getLast r.nonempty, r.routes.length - 1)
  arrive vars index route.destination

/-- Picks an activity and calls it on behalf of the router. A failure is reported with the
step that the caller gives. -/
def dispatch {ω : Type} (r : Router) (bindings : Bindings ω) (payload : Payload) (step : Nat)
    (label : Option String) (params : Fields) :
    Routine (Engine ω) (Except RunFailure Json) :=
  let selection := r.select label payload.vars
  match bindings.require selection.activity with
  | .error e => .done (.error (.setup e))
  | .ok binding =>
    (binding.callIn r.name payload (Fields.insertAll params selection.params)).map fun result =>
      result.mapError (.activity r.name step selection.activity)

end Router

end ActivityFlow
