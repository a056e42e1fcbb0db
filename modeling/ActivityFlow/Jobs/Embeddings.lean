import ActivityFlow.Jobs.Basic

/-!
# Recalculating embeddings

Embeddings are generated for each type that a variable lists.
-/
namespace ActivityFlow

namespace Embedding

def jobName : String := "recalculate_embeddings"

/-- The activity that generates the embeddings of one type. -/
def activityName : String := "generate_embeddings"

/-- The variable that lists the types. -/
def varName : String := "embedding_types"

/-- The complaint about a variable without types. -/
def invalid : Diagnosis :=
  (Diagnosis.of .activityParamInvalid
    "'embedding_types' must be a non-empty array of strings").withDetail "param" (.text varName)

/-- Reads the variable: the texts of an array, of which there must be one. -/
def ofVar : Json → Except Diagnosis (List String)
  | .array entries =>
    let types := entries.filterMap Json.text?
    if types.isEmpty then .error invalid else .ok types
  | _ => .error invalid

/-- The types that a payload asks for. -/
def ofPayload (payload : Payload) : Except Diagnosis (List String) := do
  ofVar (← requireVar payload.vars varName)

/-- The parameters of the call for one type. -/
def params (type : String) : Fields := [("type", .text type)]

end Embedding

def recalculateEmbeddings {ω : Type} (bindings : Bindings ω) (payload : Payload) :
    Routine (Engine ω) (Except RunFailure (List Json)) :=
  match Embedding.ofPayload payload with
  | .error d => .done (.error (.rejected Embedding.jobName d))
  | .ok types =>
    match bindings.require Embedding.activityName with
    | .error e => .done (.error (.setup e))
    | .ok binding => callEach Embedding.jobName binding payload (types.map Embedding.params)

end ActivityFlow
