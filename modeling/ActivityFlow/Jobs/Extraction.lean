import ActivityFlow.FanOut
import ActivityFlow.Router

/-!
# Extracting content

The media type of each document is resolved, and a router picks the activity that extracts
its content.
-/
namespace ActivityFlow

namespace Extraction

def jobName : String := "extract_content"

/-- The activity that finds out the media type of a document. -/
def resolverName : String := "resolve_content_type"

/-- The variable that asks for extraction by looking at pages. -/
def visionVar : String := "use_vision"

/-- A route for media types in which a pattern occurs. -/
def mediaRoute (pattern : String) (target : Target) : Except SetupError Route := do
  return ⟨← Guard.ofPattern pattern, target, []⟩

/-- The router of the job: documents to be read or looked at, recordings to be
transcribed, and everything else. -/
def router : Except SetupError Router := do
  let documents ← mediaRoute "^application/pdf$"
    (.switch visionVar "extract_pdf_with_vision" "convert_pdf_to_text")
  let recordings ← mediaRoute "^(audio|video)/" (.fixed "transcribe_media")
  Router.build jobName [documents, recordings, ⟨.any, .fixed "extract_text", []⟩]

/-- The parameters of both calls for a document. -/
def params (id : String) : Fields := [("object_id", .text id)]

/-- The failure of a resolver that answers with something else than a media type. -/
def noMediaType (answer : Json) : Failure :=
  .diagnosed (.activityParamInvalid resolverName "content_type"
    ("expected a media type string or null, got " ++ answer.render))

/-- The media type that a resolver answers with; null stands for an unknown one. -/
def mediaType : Json → Except Failure (Option String)
  | .text type => .ok (some type)
  | .null => .ok none
  | other => .error (noMediaType other)

variable {ω : Type}

/-- Extracts the content of the document at an index. -/
def extractOne (router : Router) (resolver : Binding ω) (bindings : Bindings ω)
    (payload : Payload) (index : Nat) (id : String) :
    Routine (Engine ω) (Except RunFailure Json) :=
  (resolver.callIn jobName payload (params id)).bind fun answer =>
    match answer.bind mediaType with
    | .error failure => .done (.error (.activity jobName index resolverName failure))
    | .ok label => router.dispatch bindings payload index label (params id)

/-- What the job needs: its router and the resolver, with all activities bound. -/
def prepare (bindings : Bindings ω) : Except SetupError (Router × Binding ω) := do
  let r ← router
  r.check bindings
  return (r, ← bindings.require resolverName)

end Extraction

def extractContent {ω : Type} (bindings : Bindings ω) (payload : Payload) :
    Routine (Engine ω) (Except RunFailure (List Json)) :=
  match Extraction.prepare bindings with
  | .error e => .done (.error (.setup e))
  | .ok (router, resolver) =>
    if payload.objectIds.isEmpty then
      .done (.error (.rejected Extraction.jobName
        (.documentNotFound [] "no target objects supplied")))
    else
      FanOut.allOrFirstFailure
        (payload.objectIds.mapIdx (Extraction.extractOne router resolver bindings payload))

end ActivityFlow
