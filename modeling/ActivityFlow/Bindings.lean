import ActivityFlow.Engine
import ActivityFlow.Groups
import ActivityFlow.Retry.Listing
import ActivityFlow.Text.Quoted

/-!
# Catalogs and bindings

A catalog holds activities under their names. Bindings tie the activities of a catalog to
the options of their groups; a workflow reaches activities only through them.
-/
namespace ActivityFlow

/-- Activities by name, in the order of their registration. -/
structure Catalog (ω : Type) where
  entries : List (String × Activity ω)

namespace Catalog

variable {ω : Type}

/-- The catalog without activities. -/
def empty : Catalog ω := ⟨[]⟩

/-- The registered names, in order. -/
def names (c : Catalog ω) : List String := c.entries.map (·.1)

def get? (c : Catalog ω) (name : String) : Option (Activity ω) := c.entries.lookup name

def contains (c : Catalog ω) (name : String) : Bool := (c.get? name).isSome

/-- Registers an activity under a name that is not taken. -/
def register (c : Catalog ω) (name : String) (activity : Activity ω) :
    Except SetupError (Catalog ω) :=
  if c.contains name then .error (.duplicateActivity name)
  else .ok ⟨c.entries ++ [(name, activity)]⟩

def describe (c : Catalog ω) : String :=
  recordListing "ActivityRegistry" [("activities", listing "[" "]" (c.names.map Text.quoted))]

end Catalog

/-- An activity tied to the options of its group. -/
structure Binding (ω : Type) where
  name : String
  activity : Activity ω
  options : AttemptOptions

/-- The activities that a workflow can reach. -/
structure Bindings (ω : Type) where
  /-- The name that calls carry unless a workflow gives its own. -/
  workflow : String
  entries : List (Binding ω)

namespace Binding

def describe {ω : Type} (b : Binding ω) (workflow : String) : String :=
  recordListing "ActivityProxy" [
    ("name", Text.quoted b.name),
    ("workflow_name", Text.quoted workflow),
    ("options", b.options.describe)]

def callIn {ω : Type} (b : Binding ω) (workflow : String) (payload : Payload) (params : Fields) :
    Routine (Engine ω) Outcome :=
  Engine.invoke b.activity ⟨payload, workflow, b.name, params⟩ b.options

end Binding

namespace Bindings

variable {ω : Type}

def describe (b : Bindings ω) : String :=
  recordListing "ActivityProxies" [
    ("workflow_name", Text.quoted b.workflow),
    ("proxies", listing "\x7b" "\x7d"
      (b.entries.map fun e => Text.quoted e.name ++ ": " ++ e.describe b.workflow))]

/-- The bound names, in order. -/
def names (b : Bindings ω) : List String := b.entries.map (·.name)

def get? (b : Bindings ω) (name : String) : Option (Binding ω) :=
  b.entries.find? fun entry => entry.name == name

def contains (b : Bindings ω) (name : String) : Bool := (b.get? name).isSome

/-- The binding of a name that has to be bound. -/
def require (b : Bindings ω) (name : String) : Except SetupError (Binding ω) :=
  match b.get? name with
  | some entry => .ok entry
  | none => .error (.unknownActivity name)

/-- Calls an activity on behalf of the bindings' own workflow. A name that is not bound is
an undiagnosed failure. -/
def call (b : Bindings ω) (name : String) (payload : Payload) (params : Fields) :
    Routine (Engine ω) Outcome :=
  match b.require name with
  | .ok entry => entry.callIn b.workflow payload params
  | .error e => .done (.error (.undiagnosed e.message))

/-- Binds names to one set of options, after those bound before. -/
def bindNames (catalog : Catalog ω) (options : AttemptOptions) (bound : List (Binding ω)) :
    List String → Except SetupError (List (Binding ω))
  | [] => .ok bound
  | name :: rest =>
    if bound.any fun entry => entry.name == name then .error (.duplicateBinding name)
    else
      match catalog.get? name with
      | none => .error (.unknownActivity name)
      | some activity => bindNames catalog options (bound ++ [⟨name, activity, options⟩]) rest

/-- Binds groups in order: the policy of each is checked before its names are bound. -/
def bindGroups (catalog : Catalog ω) (bound : List (Binding ω)) :
    List (AttemptOptions × List String) → Except SetupError (List (Binding ω))
  | [] => .ok bound
  | (options, names) :: rest => do
    options.retry.validate.mapError .invalidPolicy
    bindGroups catalog (← bindNames catalog options bound names) rest

def build (catalog : Catalog ω) (workflow : String) (groups : List (AttemptOptions × List String)) :
    Except SetupError (Bindings ω) :=
  (bindGroups catalog [] groups).map fun entries => ⟨workflow, entries⟩

/-- The options and registered names of each group that lists a registered activity. -/
def listedGroups (catalog : Catalog ω) (groups : Groups) : List (AttemptOptions × List String) :=
  groups.filterMap fun e =>
    let names := e.2.activities.filter catalog.contains
    if names.isEmpty then none else some (e.2.options, names)

/-- Bindings for every activity of a catalog: with the options of the group that lists it,
or of the default group. -/
def ofGroups (catalog : Catalog ω) (workflow : String) (groups : Groups) :
    Except SetupError (Bindings ω) := do
  let listed := listedGroups catalog groups
  let remaining := catalog.names.filter fun name => !listed.any fun g => g.2.contains name
  let standard ← groups.options Groups.defaultName
  build catalog workflow (listed ++ [(standard, remaining)])

end Bindings

end ActivityFlow
