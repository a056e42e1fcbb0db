import ActivityFlow.Jobs.Embeddings
import ActivityFlow.Proofs.FanOut.Agreement
import ActivityFlow.Proofs.Jobs.Calls
import ActivityFlow.Proofs.Json.Fields
import ActivityFlow.Proofs.Workflow.Succession

/-!
# Recalculating embeddings of texts

The job goes by the texts of its variable. It drops all other entries without a complaint, as
long as there is one text. Its results and the steps of its failures are counted without the
dropped entries, so they fit the variable only if nothing but texts is in it.
-/
namespace ActivityFlow

namespace Embedding

/-- An entry that names a type. -/
def IsText (entry : Json) : Prop := ∃ type, entry = .text type

theorem isSome_text?_iff {entry : Json} : entry.text?.isSome ↔ IsText entry := by
  cases entry <;> simp [Json.text?, IsText]

theorem text?_eq_some_iff {entry : Json} {type : String} :
    entry.text? = some type ↔ entry = .text type := by
  cases entry <;> simp [Json.text?]

/-! ## The texts of the variable -/

/-- The texts among the entries, with their positions. -/
def texts (entries : List Json) : List (Nat × String) := FanOut.placed Json.text? entries

theorem mem_texts {entries : List Json} {place : Nat} {type : String} :
    (place, type) ∈ texts entries ↔ entries[place]? = some (.text type) := by
  simp [texts, FanOut.mem_placed, text?_eq_some_iff]

/-- A text gets its position as its step only if there are texts before it and nothing else. -/
theorem step_eq_place_iff {entries : List Json} {step place : Nat} {type : String}
    (h : (texts entries)[step]? = some (place, type)) :
    step = place ↔ ∀ entry ∈ entries.take place, IsText entry := by
  have hplace := (List.getElem?_eq_some_iff.mp (mem_texts.mp (List.mem_of_getElem? h))).1
  have hlength : (entries.take place).length = place := List.length_take_of_le (Nat.le_of_lt hplace)
  simp only [← isSome_text?_iff]
  rw [FanOut.eq_countP_of_placed h, ← List.countP_eq_length, hlength]

theorem length_texts_eq_iff (entries : List Json) :
    (texts entries).length = entries.length ↔ ∀ entry ∈ entries, IsText entry := by
  simp only [← isSome_text?_iff]
  rw [texts, FanOut.length_placed, List.countP_eq_length]

/-- Where there is nothing but texts, none is dropped and none moves. -/
theorem map_texts_of_all {entries : List Json} (h : ∀ entry ∈ entries, IsText entry) :
    ((texts entries).map fun text => Json.text text.2) = entries := by
  have hmap : ((texts entries).map fun text => Json.text text.2) =
      (entries.filterMap Json.text?).map .text := by
    rw [texts, ← FanOut.map_snd_placed, List.map_map]
    rfl
  rw [hmap, List.map_filterMap]
  refine Eq.trans (List.filterMap_congr ?_) List.filterMap_some
  intro entry hentry
  obtain ⟨type, rfl⟩ := h entry hentry
  rfl

/-! ## The variable -/

theorem ofVar_of_isText {entries : List Json} (h : ∃ entry ∈ entries, IsText entry) :
    ofVar (.array entries) = .ok ((texts entries).map Prod.snd) := by
  have hsome : (entries.filterMap Json.text?).isEmpty = false := by
    obtain ⟨_, hentry, type, rfl⟩ := h
    have hmem : type ∈ entries.filterMap Json.text? := List.mem_filterMap.mpr ⟨_, hentry, rfl⟩
    simpa using List.ne_nil_of_mem hmem
  rw [texts, FanOut.map_snd_placed]
  simp only [ofVar, hsome]
  rfl

theorem ofVar_of_no_text {value : Json}
    (h : ∀ entries, value = .array entries → ∀ entry ∈ entries, ¬ IsText entry) :
    ofVar value = .error invalid := by
  cases value with
  | array entries =>
    have hnone : entries.filterMap Json.text? = [] := by
      rw [List.filterMap_eq_nil_iff]
      intro entry hentry
      have hno := h entries rfl entry hentry
      rwa [← isSome_text?_iff, Option.not_isSome_iff_eq_none] at hno
    simp only [ofVar, hnone]
    rfl
  | _ => rfl

def callFor (payload : Payload) (type : String) : Call where
  payload := payload
  workflow := "recalculate_embeddings"
  activity := "generate_embeddings"
  params := [("type", .text type)]

end Embedding

open ActivityFlow.Embedding

variable {ω : Type} {bindings : Bindings ω} {binding : Binding ω}

theorem recalculateEmbeddings_of_rejected {payload : Payload} {d : Diagnosis}
    (h : ofPayload payload = .error d) : recalculateEmbeddings bindings payload =
      .done (.error (.rejected "recalculate_embeddings" d)) := by
  rw [recalculateEmbeddings, h]
  rfl

theorem recalculateEmbeddings_of_accepted
    (hbound : bindings.get? "generate_embeddings" = some binding) {payload : Payload}
    {types : List String} (h : ofPayload payload = .ok types) :
    recalculateEmbeddings bindings payload =
      callAll Engine.platform "recalculate_embeddings" binding (types.map (callFor payload)) := by
  have hrequire : bindings.require activityName = .ok binding := Bindings.require_eq_ok hbound
  simp only [recalculateEmbeddings, h, hrequire]
  exact callEach_map _ (Bindings.name_of_get? hbound) payload params types

/-- The job makes no call unless its variable is an array with a text in it. Otherwise it makes
one call for each of the texts, in their order, and passes over all other entries: the step of a
call is the position of its text only if nothing before it was passed over, and a successful run
has a result for each entry only if there are texts and nothing else. -/
theorem recalculateEmbeddings_calls_each_text
    (hbound : bindings.get? "generate_embeddings" = some binding) (payload : Payload) :
    ((∀ value, Fields.get? payload.vars "embedding_types" = some value → value = .null) →
      ∃ d, d.kind = .workflowParamNotFound ∧ recalculateEmbeddings bindings payload =
        .done (.error (.rejected "recalculate_embeddings" d))) ∧
    (∀ value, Fields.get? payload.vars "embedding_types" = some value → value ≠ .null →
      (∀ entries, value = .array entries → ∀ entry ∈ entries, ¬ IsText entry) →
      ∃ d, d.kind = .activityParamInvalid ∧ recalculateEmbeddings bindings payload =
        .done (.error (.rejected "recalculate_embeddings" d))) ∧
    (∀ entries, Fields.get? payload.vars "embedding_types" = some (.array entries) →
      (∃ entry ∈ entries, IsText entry) →
      ∃ texts : List (Nat × String), (texts.map Prod.fst).Pairwise (· < ·) ∧
        (∀ place type, (place, type) ∈ texts ↔ entries[place]? = some (.text type)) ∧
        (∀ step place type, texts[step]? = some (place, type) →
          (step = place ↔ ∀ entry ∈ entries.take place, IsText entry)) ∧
        ((∀ entry ∈ entries, IsText entry) → (texts.map fun text => .text text.2) = entries) ∧
        ∀ (limit : Nat) (clock : Clock) (engine : Engine ω),
          let calls := texts.map fun text => callFor payload text.2
          let finish := (recalculateEmbeddings bindings payload).run clock engine
          let noted := (callAll (Ledger.platform limit) "recalculate_embeddings" binding calls).run
            clock (Ledger.start engine.world)
          finish.value = noted.value ∧ finish.clock = noted.clock ∧
            finish.state.world = noted.state.world ∧
            (∃ outcomes, EachCalled "recalculate_embeddings" "generate_embeddings" calls
              noted.state.log outcomes finish.value) ∧
            ∀ outputs, finish.value = .ok outputs →
              (outputs.length = entries.length ↔ ∀ entry ∈ entries, IsText entry)) := by
  refine ⟨?_, ?_, ?_⟩
  · intro habsent
    refine ⟨.workflowParamNotFound "embedding_types", rfl, recalculateEmbeddings_of_rejected ?_⟩
    rw [ofPayload, varName, requireVar_of_absent habsent]
    rfl
  · intro value hvalue hnull hbad
    refine ⟨invalid, rfl, recalculateEmbeddings_of_rejected ?_⟩
    rw [ofPayload, varName, requireVar_of_present hvalue hnull]
    exact ofVar_of_no_text hbad
  · intro entries hentries hsome
    have hread : ofPayload payload = .ok ((texts entries).map Prod.snd) := by
      rw [ofPayload, varName, requireVar_of_present hentries (by simp)]
      exact ofVar_of_isText hsome
    refine ⟨texts entries, FanOut.pairwise_placed _ _, fun _ _ => mem_texts,
      fun _ _ _ => step_eq_place_iff, map_texts_of_all, ?_⟩
    intro limit clock engine calls finish noted
    have heq : recalculateEmbeddings bindings payload =
        callAll Engine.platform "recalculate_embeddings" binding calls := by
      rw [recalculateEmbeddings_of_accepted hbound hread, List.map_map]
      rfl
    have hruns := run_callAll "recalculate_embeddings" (Bindings.name_of_get? hbound) calls limit
      clock engine
    rw [← heq] at hruns
    obtain ⟨hvalue, hclock, hworld, outcomes, hcalled⟩ := hruns
    refine ⟨hvalue, hclock, hworld, ⟨outcomes, hcalled⟩, ?_⟩
    intro outputs houtputs
    have hlength : outputs.length = (texts entries).length := by
      rw [(hcalled.succeeded outputs houtputs).2.1, List.length_map]
    rw [hlength, length_texts_eq_iff]

/-- Two texts with a number between them: a run that succeeds has two results for three entries,
and the failure of the last entry is that of step one. -/
theorem recalculateEmbeddings_calls_each_text_mixed :
    let generate : Activity Unit := fun call => .done
      (if call.param? "type" = some (.text call.payload.event) then
        .error (.diagnosed (.resourceExhausted "full"))
      else .ok (.object call.params))
    let binding : Binding Unit := ⟨"generate_embeddings", generate, ⟨.seconds 1, .single⟩⟩
    let bindings : Bindings Unit := ⟨"default", [binding]⟩
    let entries : List Json := [.text "text", .int 5, .text "image"]
    let payload (event : String) : Payload :=
      { (default : Payload) with event, vars := [("embedding_types", .array entries)] }
    let finish (event : String) :=
      (recalculateEmbeddings bindings (payload event)).run ⟨0, 0⟩ (Engine.start 256 ())
    bindings.get? "generate_embeddings" = some binding ∧
      (finish "update").value = .ok [.object [("type", .text "text")],
        .object [("type", .text "image")]] ∧
      (finish "image").value = .error (.activity "recalculate_embeddings" 1 "generate_embeddings"
        (.diagnosed (.resourceExhausted "full"))) ∧
      ∃ (texts : List (Nat × String)) (log : List Event) (outcomes : Nat → Option Outcome),
        (2, "image") ∈ texts ∧
        EachCalled "recalculate_embeddings" "generate_embeddings"
          (texts.map fun text => callFor (payload "image") text.2) log outcomes
          (finish "image").value := by
  intro generate binding bindings entries payload finish
  have hbound : bindings.get? "generate_embeddings" = some binding := rfl
  obtain ⟨-, -, haccepted⟩ := recalculateEmbeddings_calls_each_text hbound (payload "image")
  obtain ⟨texts, -, hmem, -, -, hruns⟩ :=
    haccepted entries rfl ⟨.text "text", by simp [entries], "text", rfl⟩
  obtain ⟨-, -, -, ⟨outcomes, hcalled⟩, -⟩ := hruns 0 ⟨0, 0⟩ (Engine.start 256 ())
  exact ⟨hbound, by decide +kernel, by decide +kernel, texts, _, outcomes,
    (hmem 2 "image").mpr rfl, hcalled⟩

end ActivityFlow
