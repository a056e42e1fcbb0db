import ActivityFlow.Engine
import ActivityFlow.Payload
import ActivityFlow.Records
import ActivityFlow.RunFailure

/-!
# Sources of records

A source answers requests for records of one kind from a collection of the store. Sources
are registered under names, and a request finds its source by the name it gives.
-/
namespace ActivityFlow

/-- What a content store can do. -/
structure Store (ω : Type) where
  /-- Finds the records of a collection that a query asks for. -/
  find : String → CollectionQuery → Routine ω (Except Failure (List Json))
  /-- Retrieves one record of a collection by its identifier, or the wanted parts of it. -/
  retrieve : String → String → Option String → Routine ω (Except Failure Json)

inductive Source where
  /-- Records found by queries in a collection. -/
  | collection (id collection : String)
  /-- Records of interaction runs, which can only be looked up by their identifiers. -/
  | runs
deriving DecidableEq

namespace Source

def documents : Source := collection "document" "objects"

def documentTypes : Source := collection "document_type" "types"

/-- The name that a source reports as its own. -/
def id : Source → String
  | collection id _ => id
  | runs => "interaction_run"

/-- Whether a source takes queries and not only identifiers. -/
def supportsQuery : Source → Bool
  | collection _ _ => true
  | runs => false

/-- The collection with the records of interaction runs. -/
def runsCollection : String := "runs"

/-- The complaint about a filter that is not an identifier. -/
def unsupportedFilter (key : String) : Diagnosis :=
  .activityParamInvalid runs.id "query"
    ("unsupported filter '" ++ key ++ "'; only id lookups are allowed")

/-- The identifiers that a request for interaction runs asks for, at most as many as its
limit says. Nothing but the identifier may be filtered by. -/
def requestedIds (r : RecordRequest) : Except Diagnosis (List String) :=
  let filter := normalizeIdFilter r.filter
  match filter.find? fun e => e.1 != storeIdKey with
  | some (key, _) => .error (unsupportedFilter key)
  | none =>
    match idFilterValues filter with
    | some ids => .ok (match r.limit with | some n => ids.take n | none => ids)
    | none =>
      if Fields.contains filter storeIdKey then
        .error (.activityParamInvalid runs.id genericIdKey
          "expected a string or an array of strings")
      else .error (.activityParamNotFound runs.id genericIdKey)

def collectionQuery (r : RecordRequest) : CollectionQuery :=
  ⟨normalizeIdFilter r.filter, r.limit, r.select⟩

variable {ω : Type}

def fetch (s : Source) (store : Store ω) (r : RecordRequest) :
    Routine ω (Except Failure (List Json)) :=
  match s with
  | collection _ name => store.find name (collectionQuery r)
  | runs =>
    match requestedIds r with
    | .error d => .done (.error (.diagnosed d))
    | .ok ids =>
      FanOut.allOrFirstFailure (ids.map fun id => store.retrieve runsCollection id r.select)

end Source

/-! ## Registries -/

/-- Things by name, in the order of their registration. -/
structure Registry (π : Type) where
  entries : List (String × π)
deriving DecidableEq

namespace Registry

variable {π : Type}

/-- The registered names, in order. -/
def names (r : Registry π) : List String := r.entries.map (·.1)

def get? (r : Registry π) (name : String) : Option π := r.entries.lookup name

def contains (r : Registry π) (name : String) : Bool := (r.get? name).isSome

def register (r : Registry π) (name : String) (source : π) : Except SetupError (Registry π) :=
  if r.contains name then .error (.duplicateSource name)
  else .ok ⟨r.entries ++ [(name, source)]⟩

/-- The source of a name that has to be registered. -/
def require (r : Registry π) (name : String) : Except SetupError π :=
  match r.get? name with
  | some source => .ok source
  | none => .error (.unknownSource name)

def describe (r : Registry π) : String :=
  recordListing "ProviderRegistry" [("providers", listing "[" "]" (r.names.map Text.quoted))]

end Registry

abbrev Sources := Registry Source

namespace Sources

def empty : Sources := ⟨[]⟩

def builtIn : Sources :=
  ⟨[("document", .documents), ("document_type", .documentTypes), ("interaction_run", .runs)]⟩

end Sources

/-! ## The activity -/

namespace RecordRequest

/-- The request that the parameters of a call spell. -/
def ofCall (call : Call) : Except Diagnosis RecordRequest := do
  let _ ← call.requireText "type"
  (decode (.object call.params)).mapError fun e =>
    .activityParamInvalid call.activity "params" e.message

end RecordRequest

namespace Registry

variable {ω π : Type}

/-- What a fetch works with: the request, the store that `connect` leads to, and the
source, checked in this order. -/
def prepareFetch (r : Registry π) (connect : Payload → Except Failure (Store ω)) (call : Call) :
    Except Failure (RecordRequest × Store ω × π) := do
  let request ← (RecordRequest.ofCall call).mapError .diagnosed
  let store ← connect call.payload
  let source ← (r.require request.source).mapError fun e =>
    .diagnosed (.activityParamInvalid call.activity "type" e.message)
  return (request, store, source)

/-- The activity that fetches the records which its parameters ask for, from sources of any
kind. -/
def fetchActivity (r : Registry π)
    (fetch : π → Store ω → RecordRequest → Routine ω (Except Failure (List Json)))
    (connect : Payload → Except Failure (Store ω)) : Activity ω :=
  fun call =>
    match r.prepareFetch connect call with
    | .error failure => .done (.error failure)
    | .ok (request, store, source) =>
      (fetch source store request).map fun records => records.map .array

end Registry

/-- The activity that fetches the records which its parameters ask for. -/
def Sources.fetchActivity {ω : Type} (s : Sources)
    (connect : Payload → Except Failure (Store ω)) : Activity ω :=
  Registry.fetchActivity s Source.fetch connect

end ActivityFlow
