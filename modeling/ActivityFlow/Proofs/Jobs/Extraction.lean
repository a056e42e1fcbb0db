import ActivityFlow.Jobs.Extraction
import ActivityFlow.Proofs.Engine.History
import ActivityFlow.Proofs.Pattern.Literal
import ActivityFlow.Proofs.Workflow.Succession

/-!
# Extracting content, document by document

The extraction of one document is a program of at most two invocations: the resolver is asked
for the media type, and the activity for this media type is called. All documents are extracted
side by side, so the log of a run is made up of the logs of the documents, and its results are
theirs in the order of the input.
-/
namespace ActivityFlow

namespace Extraction

variable {ω : Type}

/-- The activities that the job needs. -/
def neededNames : List String :=
  ["extract_pdf_with_vision", "convert_pdf_to_text", "transcribe_media", "extract_text",
    "resolve_content_type"]

/-- The documents that ask for nothing: null, false, a number equal to zero, the empty text and
the word `false`. -/
def isFalsy : Json → Bool
  | .null | .bool false | .int 0 | .text "" | .text "false" => true
  | .float x => x == 0
  | .bool true | .int _ | .text _ | .array _ | .object _ => false

theorem isTruthy_eq (value : Json) : value.isTruthy = !isFalsy value := by
  cases value with
  | bool b => cases b <;> rfl
  | int n =>
    by_cases hzero : n = 0
    · rw [hzero]
      rfl
    · simp [Json.isTruthy, isFalsy, hzero]
  | text s =>
    by_cases hempty : s = ""
    · rw [hempty]
      rfl
    · by_cases hfalse : s = "false"
      · rw [hfalse]
        rfl
      · simp [Json.isTruthy, isFalsy, hempty, hfalse]
  | null | float | array | object => rfl

/-- The activity that extracts the content of a document with a media type. -/
def activityFor (vars : Fields) : Option String → String
  | none => "extract_text"
  | some type =>
    if type = "application/pdf" then
      if ∃ value, Fields.get? vars "use_vision" = some value ∧ isFalsy value = false then
        "extract_pdf_with_vision"
      else "convert_pdf_to_text"
    else if "audio/".toList <+: type.toList ∨ "video/".toList <+: type.toList then
      "transcribe_media"
    else "extract_text"

theorem activityFor_mem (vars : Fields) (type : Option String) :
    activityFor vars type ∈ neededNames := by
  cases type with
  | none => simp [activityFor, neededNames]
  | some type =>
    simp only [activityFor]
    split_ifs <;> simp [neededNames]

/-! ## The router -/

/-- The pattern of documents to be read or looked at. -/
def documentPattern : Pattern :=
  .seq (.anchor .textStart) (.literal "application/pdf".toList (.anchor .textEnd))

def recordingPattern : Pattern :=
  .seq (.anchor .textStart) (.seq
    (.group (.alt (.literal "audi".toList (.char (.single 'o')))
      (.literal "vide".toList (.char (.single 'o')))))
    (.char (.single '/')))

theorem parse?_documentPattern : Pattern.parse? "^application/pdf$" = some documentPattern := by
  decide +kernel

theorem parse?_recordingPattern : Pattern.parse? "^(audio|video)/" = some recordingPattern := by
  decide +kernel

def routes : Router where
  name := jobName
  routes := [
    ⟨.pattern documentPattern,
      ⟨.switch visionVar "extract_pdf_with_vision" "convert_pdf_to_text", []⟩⟩,
    ⟨.pattern recordingPattern, ⟨.fixed "transcribe_media", []⟩⟩,
    ⟨.any, ⟨.fixed "extract_text", []⟩⟩]
  nonempty := by simp

theorem router_eq : router = .ok routes := by
  simp only [router, mediaRoute, Guard.ofPattern, parse?_documentPattern, parse?_recordingPattern]
  rfl

/-- The target of the first route chooses what the variable asks for. -/
theorem choose_vision (vars : Fields) :
    (Target.switch visionVar "extract_pdf_with_vision" "convert_pdf_to_text").choose vars =
      activityFor vars (some "application/pdf") := by
  simp only [Target.choose, activityFor, visionVar, Option.any_eq_true, isTruthy_eq,
    Bool.not_eq_true', if_true]

/-- The router picks the activity for the media type and adds no parameters. -/
theorem select_routes (vars : Fields) (type : Option String) :
    (routes.select type vars).activity = activityFor vars type ∧
      (routes.select type vars).params = [] := by
  cases type with
  | none => exact ⟨rfl, rfl⟩
  | some type =>
    have hdocument : (Guard.pattern documentPattern).admits (some type) =
        decide (type = "application/pdf") := by
      rw [Bool.eq_iff_iff, decide_eq_true_iff, String.ext_iff, Guard.admits, Option.any_some,
        documentPattern, Pattern.occursIn_whole]
    have hrecording : (Guard.pattern recordingPattern).admits (some type) =
        decide ("audio/".toList <+: type.toList ∨ "video/".toList <+: type.toList) := by
      rw [Bool.eq_iff_iff, decide_eq_true_iff, Guard.admits, Option.any_some, recordingPattern,
        Pattern.occursIn_either]
      rfl
    have hany : Guard.any.admits (some type) = true := rfl
    simp only [Router.select, Router.search, routes, List.zipIdx, List.find?_cons, hdocument,
      hrecording, hany]
    by_cases hpdf : type = "application/pdf"
    · rw [hpdf, ← choose_vision]
      exact ⟨rfl, rfl⟩
    · rw [activityFor, if_neg hpdf, decide_eq_false hpdf]
      by_cases hmedia : "audio/".toList <+: type.toList ∨ "video/".toList <+: type.toList
      · rw [if_pos hmedia, decide_eq_true hmedia]
        exact ⟨rfl, rfl⟩
      · rw [if_neg hmedia, decide_eq_false hmedia]
        exact ⟨rfl, rfl⟩

theorem activityNames_routes : routes.activityNames =
    ["extract_pdf_with_vision", "convert_pdf_to_text", "transcribe_media", "extract_text"] := by
  decide

/-! ## What the job needs -/

variable (bindings : Bindings ω) (payload : Payload)

theorem check_routes_of_bound (h : ∀ name ∈ neededNames, bindings.contains name = true) :
    routes.check bindings = .ok () := by
  have hnone : (routes.activityNames.find? fun name => !bindings.contains name) = none := by
    rw [List.find?_eq_none, activityNames_routes]
    intro name hname
    simp [h name (List.mem_append_left ["resolve_content_type"] hname)]
  rw [Router.check, hnone]

theorem prepare_of_bound (h : ∀ name ∈ neededNames, bindings.contains name = true) :
    ∃ resolver, bindings.get? "resolve_content_type" = some resolver ∧
      prepare bindings = .ok (routes, resolver) := by
  obtain ⟨resolver, hresolver⟩ := Bindings.exists_get?_of_contains
    (h "resolve_content_type" (by simp [neededNames]))
  refine ⟨resolver, hresolver, ?_⟩
  have hrequire : bindings.require resolverName = .ok resolver := Bindings.require_eq_ok hresolver
  simp only [prepare, router_eq, check_routes_of_bound bindings h, hrequire, bind, Except.bind,
    pure, Except.pure]

theorem prepare_of_unbound (h : ∃ name ∈ neededNames, bindings.contains name = false) :
    ∃ missing ∈ neededNames, bindings.contains missing = false ∧
      prepare bindings = .error (.unknownActivity missing) := by
  cases hfind : routes.activityNames.find? fun name => !bindings.contains name with
  | some missing =>
    have hmissing : bindings.contains missing = false := by simpa using List.find?_some hfind
    have hmem := List.mem_of_find?_eq_some hfind
    rw [activityNames_routes] at hmem
    refine ⟨missing, List.mem_append_left ["resolve_content_type"] hmem, hmissing, ?_⟩
    simp only [prepare, router_eq, Router.check, hfind, bind, Except.bind]
  | none =>
    rw [List.find?_eq_none, activityNames_routes] at hfind
    have hresolver : bindings.contains resolverName = false := by
      obtain ⟨name, hname, hunbound⟩ := h
      have hsplit : neededNames = ["extract_pdf_with_vision", "convert_pdf_to_text",
        "transcribe_media", "extract_text"] ++ [resolverName] := rfl
      rw [hsplit] at hname
      rcases List.mem_append.mp hname with hname | hname
      · exact absurd hunbound (by simpa using hfind name hname)
      · rwa [← List.mem_singleton.mp hname]
    refine ⟨resolverName, by simp [neededNames, resolverName], hresolver, ?_⟩
    have hcheck : routes.check bindings = .ok () := by
      rw [Router.check, activityNames_routes, List.find?_eq_none.mpr hfind]
    have hrequire : bindings.require resolverName = .error (.unknownActivity resolverName) := by
      rw [Bindings.contains, Option.isSome_eq_false_iff, Option.isNone_iff_eq_none] at hresolver
      rw [Bindings.require, hresolver]
    simp only [prepare, router_eq, hcheck, hrequire, bind, Except.bind]

/-! ## One document -/

/-- A call of the job for a document. -/
def callFor (payload : Payload) (activity id : String) : Call :=
  ⟨payload, "extract_content", activity, [("object_id", .text id)]⟩

/-- An invocation of a bound activity for a document. -/
def invokeFor (bindings : Bindings ω) (payload : Payload) (activity id : String)
    (next : Outcome → Program ω RunFailure Json) : Program ω RunFailure Json :=
  match bindings.require activity with
  | .error e => .done (.error (.setup e))
  | .ok binding => .invoke binding.activity (callFor payload activity id) binding.options next

/-- The program that extracts the document at an index. -/
def extraction (bindings : Bindings ω) (payload : Payload) (index : Nat) (id : String) :
    Program ω RunFailure Json :=
  invokeFor bindings payload "resolve_content_type" id fun answer =>
    match answer.bind mediaType with
    | .error failure =>
      .done (.error (.activity "extract_content" index "resolve_content_type" failure))
    | .ok type =>
      let activity := activityFor payload.vars type
      invokeFor bindings payload activity id fun outcome =>
        .done (outcome.mapError (.activity "extract_content" index activity))

variable {bindings}

theorem on_invokeFor {activity : String} {binding : Binding ω}
    (h : bindings.get? activity = some binding) (id : String)
    (next : Outcome → Program ω RunFailure Json) (site : Site) :
    (invokeFor bindings payload activity id next).on Engine.platform site =
      (binding.callIn jobName payload (params id)).bind fun outcome =>
        (next outcome).on Engine.platform (.next :: site) := by
  rw [invokeFor, Bindings.require_eq_ok h, ← Bindings.name_of_get? h]
  rfl

/-- The document's part of the job is its program, run on the engine. -/
theorem extractOne_eq {resolver : Binding ω}
    (hresolver : bindings.get? "resolve_content_type" = some resolver)
    (h : ∀ name ∈ neededNames, bindings.contains name = true) (index : Nat) (id : String)
    (site : Site) :
    extractOne routes resolver bindings payload index id =
      (extraction bindings payload index id).on Engine.platform site := by
  rw [extraction, on_invokeFor payload hresolver, extractOne]
  congr 1
  funext answer
  cases hmedia : answer.bind mediaType with
  | error failure => rfl
  | ok type =>
    obtain ⟨hactivity, hparams⟩ := select_routes payload.vars type
    obtain ⟨binding, hbinding⟩ :=
      Bindings.exists_get?_of_contains (h _ (activityFor_mem payload.vars type))
    simp only [on_invokeFor payload hbinding, Router.dispatch, hactivity, hparams,
      Bindings.require_eq_ok hbinding]
    rfl

/-- What a run does for the document at an index: the resolver is called, and if it answers with
a text or null the activity for this media type is called, and nothing else. -/
inductive DocumentLog (payload : Payload) (index : Nat) (id : String) :
    LogSpec Event (Except RunFailure Json) where
  | resolving {entries : List Event}
    (resolver : InvocationLog [.branch index] (callFor payload "resolve_content_type" id) 0 entries
      none) :
    DocumentLog payload index id entries none
  | unresolved {entries : List Event} {failure : Failure} {result : Option (Except RunFailure Json)}
    (resolver : InvocationLog [.branch index] (callFor payload "resolve_content_type" id) 0 entries
      (some (.error failure)))
    (failed : ∀ r, result = some r →
      r = .error (.activity "extract_content" index "resolve_content_type" failure)) :
    DocumentLog payload index id entries result
  | mistyped {entries : List Event} {answer : Json} {diagnosis : Diagnosis}
    {result : Option (Except RunFailure Json)}
    (resolver : InvocationLog [.branch index] (callFor payload "resolve_content_type" id) 0 entries
      (some (.ok answer)))
    (noText : ∀ type, answer ≠ .text type) (noNull : answer ≠ .null)
    (invalid : diagnosis.kind = .activityParamInvalid)
    (failed : ∀ r, result = some r →
      r = .error (.activity "extract_content" index "resolve_content_type"
        (.diagnosed diagnosis))) :
    DocumentLog payload index id entries result
  | extracting {first later : List Event} {type : Option String} {outcome : Option Outcome}
    {result : Option (Except RunFailure Json)}
    (resolver : InvocationLog [.branch index] (callFor payload "resolve_content_type" id) 0 first
      (some (.ok (type.elim .null .text))))
    (extractor : InvocationLog [.next, .branch index]
      (callFor payload (activityFor payload.vars type) id) 0 later outcome)
    (ended : ∀ r, result = some r → ∃ o, outcome = some o ∧
      r = o.mapError (.activity "extract_content" index (activityFor payload.vars type))) :
    DocumentLog payload index id (first ++ later) result

theorem logs_invokeFor {payload : Payload} {activity : String} {binding : Binding ω}
    (h : bindings.get? activity = some binding) (id : String)
    (next : Outcome → Program ω RunFailure Json) (site : Site) :
    (invokeFor bindings payload activity id next).Logs site =
      (InvocationLog site (callFor payload activity id) 0).Then fun outcome =>
        (next outcome).Logs (.next :: site) := by
  rw [invokeFor, Bindings.require_eq_ok h]
  rfl

theorem of_mediaType_eq_ok {answer : Json} {type : Option String}
    (h : mediaType answer = .ok type) : answer = type.elim .null .text := by
  cases answer <;> simp only [mediaType, Except.ok.injEq, reduceCtorEq] at h <;> subst h <;> rfl

theorem of_mediaType_eq_error {answer : Json} {failure : Failure}
    (h : mediaType answer = .error failure) :
    (∃ diagnosis : Diagnosis, failure = .diagnosed diagnosis ∧
      diagnosis.kind = .activityParamInvalid) ∧ (∀ type, answer ≠ .text type) ∧
      answer ≠ .null := by
  cases answer with
  | text type => cases h
  | null => cases h
  | _ =>
    obtain rfl := Except.error.inj h
    exact ⟨⟨_, rfl, rfl⟩, by simp, by simp⟩

theorem documentLog_of_logs {payload : Payload}
    (h : ∀ name ∈ neededNames, bindings.contains name = true)
    {index : Nat} {id : String} {entries : List Event} {result : Option (Except RunFailure Json)}
    (hlogs : (extraction bindings payload index id).Logs [.branch index] entries result) :
    DocumentLog payload index id entries result := by
  obtain ⟨resolver, hresolver⟩ := Bindings.exists_get?_of_contains
    (h "resolve_content_type" (by simp [neededNames]))
  rw [extraction, logs_invokeFor hresolver] at hlogs
  cases hlogs with
  | first hfirst => exact .resolving hfirst
  | @second first later answer _ hfirst hlater =>
    cases hmedia : answer.bind mediaType with
    | error failure =>
      simp only [hmedia] at hlater
      obtain ⟨rfl, hresult⟩ := hlater
      rw [List.append_nil]
      cases answer with
      | error e =>
        obtain rfl : e = failure := by simpa [Except.bind] using hmedia
        exact .unresolved hfirst hresult
      | ok json =>
        obtain ⟨⟨_, rfl, hkind⟩, htext, hnull⟩ := of_mediaType_eq_error hmedia
        exact .mistyped hfirst htext hnull hkind hresult
    | ok type =>
      obtain ⟨binding, hbinding⟩ :=
        Bindings.exists_get?_of_contains (h _ (activityFor_mem payload.vars type))
      simp only [hmedia, logs_invokeFor hbinding] at hlater
      cases answer with
      | error e => simp [Except.bind] at hmedia
      | ok json =>
        obtain rfl := of_mediaType_eq_ok hmedia
        cases hlater with
        | first hlater => exact .extracting hfirst hlater (by simp)
        | second hlater hdone =>
          obtain ⟨rfl, hresult⟩ := hdone
          rw [List.append_nil]
          exact .extracting hfirst hlater fun r hr => ⟨_, rfl, hresult r hr⟩

end Extraction

open Extraction

/-- A run for several documents: the log consists of the logs of the documents, and the result
is made of theirs. -/
def Extraction.Extracted (payload : Payload) (log : List Event)
    (result : Except RunFailure (List Json)) : Prop :=
  ∃ results : Nat → Option (Except RunFailure Json),
    (∀ e ∈ log, ∃ index < payload.objectIds.length, [.branch index] <:+ e.site) ∧
    (∀ index id, payload.objectIds[index]? = some id →
      DocumentLog payload index id (branchLog [] index log) (results index)) ∧
    FanOut.AllOrFirst payload.objectIds.length results result

/-- With all activities bound, the job runs the programs of the documents side by side. -/
theorem extractContent_eq {ω : Type} {bindings : Bindings ω} (payload : Payload)
    (h : ∀ name ∈ neededNames, bindings.contains name = true) (hsome : payload.objectIds ≠ []) :
    extractContent bindings payload = FanOut.allOrFirstFailure (payload.objectIds.mapIdx
      fun index id => (extraction bindings payload index id).on Engine.platform
        [.branch index]) := by
  obtain ⟨resolver, hresolver, hprepare⟩ := prepare_of_bound bindings h
  have hone : extractOne routes resolver bindings payload = fun index id =>
      (extraction bindings payload index id).on Engine.platform [.branch index] := by
    funext index id
    exact extractOne_eq payload hresolver h index id _
  simp only [extractContent, hprepare, List.isEmpty_iff, hsome, if_false, hone]

/-- The job refuses to start if one of its activities is not bound, or if there is no document.
Otherwise it runs the programs of all documents side by side. For each of them the resolver is
called once and then, if it answers with a text or null, the activity for this media type; the
result is made of what these calls end with, in the order of the documents. -/
theorem extractContent_of_each {ω : Type} (bindings : Bindings ω) (payload : Payload) :
    ((∃ name ∈ neededNames, bindings.contains name = false) →
      ∃ missing ∈ neededNames, bindings.contains missing = false ∧
        extractContent bindings payload = .done (.error (.setup (.unknownActivity missing)))) ∧
    ((∀ name ∈ neededNames, bindings.contains name = true) → payload.objectIds = [] →
      ∃ d, d.kind = .documentNotFound ∧
        extractContent bindings payload = .done (.error (.rejected "extract_content" d))) ∧
    ((∀ name ∈ neededNames, bindings.contains name = true) → payload.objectIds ≠ [] →
      extractContent bindings payload = FanOut.allOrFirstFailure (payload.objectIds.mapIdx
        fun index id => (extraction bindings payload index id).on Engine.platform [.branch index]) ∧
      ∀ (limit : Nat) (world : ω) (clock : Clock),
        let finish := (extractContent bindings payload).run clock (Engine.start limit world)
        let noted := (FanOut.allOrFirstFailure (payload.objectIds.mapIdx fun index id =>
          (extraction bindings payload index id).on (Ledger.platform limit)
            [.branch index])).run clock (Ledger.start world)
        finish.value = noted.value ∧ finish.clock = noted.clock ∧
          finish.state.world = noted.state.world ∧
          Extracted payload noted.state.log finish.value) := by
  refine ⟨?_, ?_, ?_⟩
  · intro h
    obtain ⟨missing, hmem, hunbound, hprepare⟩ := prepare_of_unbound bindings h
    exact ⟨missing, hmem, hunbound, by rw [extractContent, hprepare]⟩
  · intro h hnone
    obtain ⟨resolver, -, hprepare⟩ := prepare_of_bound bindings h
    refine ⟨.documentNotFound [] "no target objects supplied", rfl, ?_⟩
    simp only [extractContent, hprepare, hnone, List.isEmpty_nil, if_true, jobName]
  · intro h hsome
    have heq := extractContent_eq payload h hsome
    refine ⟨heq, ?_⟩
    intro limit world clock finish noted
    obtain ⟨hvalue, hclock, hagrees, results, hevents, hspec, hresult⟩ :=
      FanOut.run_each payload.objectIds
        (fun index id =>
          Engine.inStep_program (extraction bindings payload index id) [.branch index])
        (fun index id entries result hlogs => hlogs.orderly.below) clock
        (Engine.agrees_start limit world) rfl
    rw [← heq] at hvalue hclock hagrees hresult
    exact ⟨hvalue, hclock, hagrees.world, results, hevents,
      fun index id hid => documentLog_of_logs h (hspec index id hid), hresult⟩

/-- Four documents: a recording, one without a media type, and two to be looked at or read. The
resolver goes by the identifier, and the extractors answer with the identifier and their name. A
variable that holds an empty list asks for looking, one that holds a zero does not. -/
theorem extractContent_of_each_four :
    let options : AttemptOptions := ⟨.seconds 1, .single⟩
    let resolver : Activity Unit := fun call => .done (.ok
      (match call.params with
      | [("object_id", .text "talk")] => .text "audio/mpeg"
      | [("object_id", .text "note")] => .null
      | [("object_id", .text _)] => .text "application/pdf"
      | _ => .bool false))
    let extractor : Activity Unit := fun call => .done (.ok
      (.array [(Fields.get? call.params "object_id").getD .null, .text call.activity]))
    let bindings : Bindings Unit := ⟨"extract_content",
      ⟨"resolve_content_type", resolver, options⟩ ::
        neededNames.dropLast.map fun name => ⟨name, extractor, options⟩⟩
    let payload (vision : Json) : Payload := { (default : Payload) with
      objectIds := ["talk", "note", "paper", "scan"]
      vars := [("use_vision", vision)] }
    let finish (vision : Json) :=
      (extractContent bindings (payload vision)).run ⟨0, 0⟩ (Engine.start 256 ())
    let answers (activity : String) : List Json :=
      [.array [.text "talk", .text "transcribe_media"], .array [.text "note", .text "extract_text"],
        .array [.text "paper", .text activity], .array [.text "scan", .text activity]]
    (∀ name ∈ neededNames, bindings.contains name = true) ∧
      (∀ vision, (payload vision).objectIds ≠ []) ∧
      (finish (.array [])).value = .ok (answers "extract_pdf_with_vision") ∧
      (finish (.int 0)).value = .ok (answers "convert_pdf_to_text") ∧
      ∀ vision, ∃ log, Extracted (payload vision) log (finish vision).value := by
  intro options resolver extractor bindings payload finish answers
  have hbound : ∀ name ∈ neededNames, bindings.contains name = true := by decide +kernel
  have hsome : ∀ vision, (payload vision).objectIds ≠ [] := fun _ => by simp [payload]
  have hlooked : (finish (.array [])).value = .ok (answers "extract_pdf_with_vision") := by
    simp only [finish, extractContent_eq (payload (.array [])) hbound (hsome _)]
    decide +kernel
  have hread : (finish (.int 0)).value = .ok (answers "convert_pdf_to_text") := by
    simp only [finish, extractContent_eq (payload (.int 0)) hbound (hsome _)]
    decide +kernel
  refine ⟨hbound, hsome, hlooked, hread, ?_⟩
  intro vision
  obtain ⟨-, hruns⟩ := (extractContent_of_each bindings (payload vision)).2.2 hbound (hsome vision)
  obtain ⟨-, -, -, hextracted⟩ := hruns 256 () ⟨0, 0⟩
  exact ⟨_, hextracted⟩

end ActivityFlow
