import ActivityFlow.Proofs.Document.Payload

/-!
# Workflows survive their documents

Steps and workflows admit no unknown entries, and none of their own is unknown. Named
workflows are read in the order of their names.
-/
namespace ActivityFlow

open Decoding

namespace Decoding

theorem knownPart_sublist (known : List String) (fields : Fields) :
    (knownPart known fields).Sublist fields :=
  List.takeWhile_sublist _

end Decoding

namespace Step

/-- A step whose parameters can be written. -/
def Valid (step : Step) : Prop := step.params.WellFormed

theorem valid_of_ofFields {fields : Fields} {step : Step} (hfields : fields.WellFormed)
    (h : ofFields fields = .ok step) : step.Valid := by
  simp only [ofFields, bind_eq_ok, pure_eq_ok] at h
  obtain ⟨_, -, _, -, _, -, params, hparams, _, -, _, -, rfl⟩ := h
  have hknown := hfields.sublist (knownPart_sublist fieldNames fields)
  exact valid_getD (faithful_asFields.sound.field? hknown hparams) .nil

theorem valid_of_ofItems {items : List Json} {step : Step} (hitems : ∀ v ∈ items, v.WellFormed)
    (h : ofItems items = .ok step) : step.Valid := by
  simp only [ofItems, bind_eq_ok, pure_eq_ok] at h
  obtain ⟨_, -, params, hparams, _, -, _, -, _, -, rfl⟩ := h
  exact faithful_asFields.sound.itemD hitems .nil hparams

def toFields (step : Step) : Fields :=
  [("import", .array (step.imports.map .text)), ("name", .text step.activity),
    ("output", ServiceSettings.encodeText? step.output), ("params", .object step.params)]

theorem toFields_wellFormed {step : Step} (h : step.Valid) : step.toFields.WellFormed :=
  .of_keys ["import", "name", "output", "params"] rfl (by decide)
    ⟨faithful_asText.list.wellFormed _ fun _ _ => trivial, .text _,
      faithful_asOptionalText.wellFormed _ trivial, h, trivial⟩

theorem ofFields_toFields {step : Step} (h : step.Valid) : ofFields step.toFields = .ok step := by
  have hknown : knownPart fieldNames step.toFields = step.toFields := rfl
  have hreject : rejectUnknown fieldNames step.toFields = .ok () := rfl
  have hinc := Fields.includes_self (toFields_wellFormed h).ascending.nodup
  have himports := faithful_asText.list.field? hinc "import" step.imports (by simp [toFields])
    fun _ _ => trivial
  have hactivity := faithful_asText.field? hinc "name" step.activity (by simp [toFields]) trivial
  have houtput := faithful_asOptionalText.field? hinc "output" step.output (by simp [toFields])
    trivial
  have hparams := faithful_asFields.field? hinc "params" step.params (by simp [toFields]) h
  simp only [ofFields, hknown, himports, hactivity, houtput, hparams, hreject]
  rfl

theorem faithful : Faithful decode encode Valid :=
  faithful_record "ActivitySpec" (fun _ _ => valid_of_ofFields) (fun _ _ => valid_of_ofItems)
    (fun _ => toFields_wellFormed) fun _ => ofFields_toFields

end Step

namespace Workflow

/-- A workflow whose steps and variables can be written. -/
structure Valid (w : Workflow) : Prop where
  steps : ∀ step ∈ w.steps, step.Valid
  vars : w.vars.WellFormed

theorem valid_of_ofFields {fields : Fields} {w : Workflow} (hfields : fields.WellFormed)
    (h : ofFields fields = .ok w) : w.Valid := by
  simp only [ofFields, bind_eq_ok, pure_eq_ok] at h
  obtain ⟨steps, hsteps, _, -, vars, hvars, _, -, rfl⟩ := h
  have hknown := hfields.sublist (knownPart_sublist fieldNames fields)
  exact ⟨valid_getD (Step.faithful.list.sound.field? hknown hsteps) (by simp),
    valid_getD (faithful_asFields.sound.field? hknown hvars) .nil⟩

theorem valid_of_ofItems {items : List Json} {w : Workflow} (hitems : ∀ v ∈ items, v.WellFormed)
    (h : ofItems items = .ok w) : w.Valid := by
  simp only [ofItems, bind_eq_ok, pure_eq_ok] at h
  obtain ⟨_, -, steps, hsteps, vars, hvars, _, -, rfl⟩ := h
  exact ⟨Step.faithful.list.sound.itemD hitems (by simp) hsteps,
    faithful_asFields.sound.itemD hitems .nil hvars⟩

def toFields (w : Workflow) : Fields :=
  [("activities", .array (w.steps.map Step.encode)), ("name", .text w.name),
    ("vars", .object w.vars)]

theorem toFields_wellFormed {w : Workflow} (h : w.Valid) : w.toFields.WellFormed :=
  .of_keys ["activities", "name", "vars"] rfl (by decide)
    ⟨Step.faithful.list.wellFormed _ h.steps, .text _, h.vars, trivial⟩

theorem ofFields_toFields {w : Workflow} (h : w.Valid) : ofFields w.toFields = .ok w := by
  have hknown : knownPart fieldNames w.toFields = w.toFields := rfl
  have hreject : rejectUnknown fieldNames w.toFields = .ok () := rfl
  have hinc := Fields.includes_self (toFields_wellFormed h).ascending.nodup
  have hsteps := Step.faithful.list.field? hinc "activities" w.steps (by simp [toFields]) h.steps
  have hname := faithful_asText.field? hinc "name" w.name (by simp [toFields]) trivial
  have hvars := faithful_asFields.field? hinc "vars" w.vars (by simp [toFields]) h.vars
  simp only [ofFields, hknown, hsteps, hname, hvars, hreject]
  rfl

theorem faithful : Faithful decode encode Valid :=
  faithful_record "WorkflowSpec" (fun _ _ => valid_of_ofFields) (fun _ _ => valid_of_ofItems)
    (fun _ => toFields_wellFormed) fun _ => ofFields_toFields

end Workflow

namespace Bundle

/-- Workflows under ascending names that can be written. -/
def Valid (bundle : Bundle) : Prop :=
  Fields.Ascending bundle ∧ ∀ e ∈ bundle, e.2.Valid

theorem faithful : Faithful decode encode Valid := by
  have hnamed := Workflow.faithful.named
  refine faithful_record "WorkflowBundle" ?_ ?_ ?_ ?_
  · intro fields bundle hfields h
    simp only [bind_eq_ok, required_eq_ok] at h
    obtain ⟨o, ho, rfl⟩ := h
    exact hnamed.sound.field? hfields ho bundle rfl
  · intro items bundle hitems h
    simp only [bind_eq_ok, pure_eq_ok] at h
    obtain ⟨found, hfound, _, -, rfl⟩ := h
    exact hnamed.sound.item hitems hfound
  · intro bundle h
    exact .of_keys ["workflows"] rfl (by decide) ⟨hnamed.wellFormed bundle h, trivial⟩
  · intro bundle h
    have hread := hnamed.field? (Fields.includes_self (by simp)) "workflows" bundle
      (List.mem_singleton_self _) h
    rw [hread]
    rfl

end Bundle

namespace RunRequest

/-- A request whose payload and workflow can be written. -/
structure Valid (r : RunRequest) : Prop where
  payload : r.payload.Valid
  workflow : r.workflow.Valid

theorem valid_of_ofFields {fields : Fields} {r : RunRequest} (hfields : fields.WellFormed)
    (h : ofFields fields = .ok r) : r.Valid := by
  simp only [ofFields, bind_eq_ok, pure_eq_ok, required_eq_ok] at h
  obtain ⟨_, hworkflow, workflow, rfl, payload, hpayload, rfl⟩ := h
  exact ⟨Payload.valid_of_ofFields hfields hpayload,
    Workflow.faithful.sound.field? hfields hworkflow workflow rfl⟩

def toFields (r : RunRequest) : Fields :=
  Fields.insert r.payload.toFields "workflow" r.workflow.encode

theorem ofFields_toFields {r : RunRequest} (h : r.Valid) : ofFields r.toFields = .ok r := by
  have hworkflow : field? r.toFields "workflow" Workflow.decode = .ok (some r.workflow) := by
    rw [field?, toFields, Fields.get?_insert_self]
    simp only [Workflow.faithful.decode_encode r.workflow h.workflow, map_ok]
  have hpayload : Fields.Includes r.toFields r.payload.toFields :=
    (Fields.includes_self (Payload.toFields_wellFormed h.payload).ascending.nodup).insert
      (by simp [Payload.toFields]) _
  have hids : Fields.get? r.toFields "object_ids" = none :=
    Fields.get?_insert_of_ne _ _ (by decide)
  rw [ofFields, hworkflow]
  simp only [ok_bind, required, Payload.ofFields_of_includes h.payload hpayload hids]
  rfl

theorem faithful : Faithful decode encode Valid :=
  faithful_openRecord "WorkflowMessage" (fun _ _ => valid_of_ofFields)
    (fun r h => (Payload.toFields_wellFormed h.payload).insert "workflow"
      (Workflow.faithful.wellFormed r.workflow h.workflow))
    fun _ => ofFields_toFields

end RunRequest

end ActivityFlow
