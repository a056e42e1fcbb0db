import ActivityFlow.Proofs.Document.Faithful

/-!
# Payloads and calls survive their documents

Settings keep the entries that they do not name, and storing the named ones beside them is
undone by removing them. A payload is read from any object that includes its entries, which
is how a call or a request finds it beside its own.
-/
namespace ActivityFlow

open Decoding

namespace ServiceSettings

/-- Settings whose further entries are a document without the named entries. -/
structure Valid (c : ServiceSettings) : Prop where
  extra : c.extra.WellFormed
  store_none : Fields.get? c.extra "store_url" = none
  studio_none : Fields.get? c.extra "studio_url" = none

theorem valid_default : (default : ServiceSettings).Valid := ⟨.nil, rfl, rfl⟩

theorem valid_of_ofFields {fields : Fields} {c : ServiceSettings} (hfields : fields.WellFormed)
    (h : ofFields fields = .ok c) : c.Valid := by
  simp only [ofFields, bind_eq_ok, pure_eq_ok] at h
  obtain ⟨_, -, _, -, rfl⟩ := h
  refine ⟨(hfields.erase "store_url").erase "studio_url", ?_, ?_⟩
  · exact Fields.get?_erase_of_get?_eq_none (Fields.get?_erase_self fields "store_url") _
  · exact Fields.get?_erase_self _ "studio_url"

def toFields (c : ServiceSettings) : Fields :=
  Fields.insert (Fields.insert c.extra "store_url" (encodeText? c.storeUrl))
    "studio_url" (encodeText? c.studioUrl)

theorem toFields_wellFormed {c : ServiceSettings} (h : c.Valid) : c.toFields.WellFormed :=
  (h.extra.insert "store_url" (faithful_asOptionalText.wellFormed _ trivial)).insert "studio_url"
    (faithful_asOptionalText.wellFormed _ trivial)

theorem get?_studio_toFields (c : ServiceSettings) :
    Fields.get? c.toFields "studio_url" = some (encodeText? c.studioUrl) :=
  Fields.get?_insert_self _ _ _

theorem get?_store_toFields (c : ServiceSettings) :
    Fields.get? c.toFields "store_url" = some (encodeText? c.storeUrl) := by
  rw [toFields, Fields.get?_insert_of_ne _ _ (by decide), Fields.get?_insert_self]

/-- Removing the named entries leaves the others as they were. -/
theorem erase_toFields {c : ServiceSettings} (h : c.Valid) :
    Fields.erase (Fields.erase c.toFields "store_url") "studio_url" = c.extra := by
  rw [Fields.erase_comm, toFields, Fields.erase_insert_self, Fields.erase_comm,
    Fields.erase_insert_self, Fields.erase_of_get?_eq_none h.store_none,
    Fields.erase_of_get?_eq_none h.studio_none]

theorem ofFields_toFields {c : ServiceSettings} (h : c.Valid) : ofFields c.toFields = .ok c := by
  have hinc : Fields.Includes c.toFields
      [("store_url", encodeText? c.storeUrl), ("studio_url", encodeText? c.studioUrl)] := by
    intro e he
    rcases List.mem_cons.mp he with rfl | he
    · exact c.get?_store_toFields
    · obtain rfl := List.mem_singleton.mp he
      exact c.get?_studio_toFields
  have hstore := faithful_asOptionalText.field? hinc "store_url" c.storeUrl (by simp) trivial
  have hstudio := faithful_asOptionalText.field? hinc "studio_url" c.studioUrl (by simp) trivial
  rw [ofFields, hstore, hstudio]
  simp only [ok_bind, erase_toFields h]
  rfl

theorem faithful : Faithful decode encode Valid :=
  faithful_openRecord "PayloadConfig" (fun _ _ => valid_of_ofFields)
    (fun _ => toFields_wellFormed) fun _ => ofFields_toFields

end ServiceSettings

namespace Payload

/-- A payload whose settings and variables can be written. -/
structure Valid (p : Payload) : Prop where
  config : p.config.Valid
  vars : p.vars.WellFormed

theorem valid_of_ofFields {fields : Fields} {p : Payload} (hfields : fields.WellFormed)
    (h : ofFields fields = .ok p) : p.Valid := by
  simp only [ofFields, bind_eq_ok, pure_eq_ok] at h
  obtain ⟨_, -, _, -, config, hconfig, _, -, _, -, _, -, vars, hvars, rfl⟩ := h
  exact ⟨valid_getD (ServiceSettings.faithful.sound.field? hfields hconfig)
    ServiceSettings.valid_default, valid_getD (faithful_asFields.sound.field? hfields hvars) .nil⟩

theorem valid_of_ofItems {items : List Json} {p : Payload} (hitems : ∀ v ∈ items, v.WellFormed)
    (h : ofItems items = .ok p) : p.Valid := by
  simp only [ofItems, bind_eq_ok, pure_eq_ok] at h
  obtain ⟨_, -, _, -, _, -, config, hconfig, _, -, vars, hvars, _, -, _, -, rfl⟩ := h
  exact ⟨ServiceSettings.faithful.sound.itemD hitems ServiceSettings.valid_default hconfig,
    faithful_asFields.sound.itemD hitems .nil hvars⟩

theorem toFields_wellFormed {p : Payload} (h : p.Valid) : p.toFields.WellFormed :=
  .of_keys ["account_id", "auth_token", "config", "event", "objectIds", "project_id", "vars"] rfl
    (by decide)
    ⟨.text _, faithful_asOptionalText.wellFormed _ trivial,
      ServiceSettings.faithful.wellFormed _ h.config, .text _,
      faithful_asText.list.wellFormed _ fun _ _ => trivial, .text _, h.vars, trivial⟩

/-- The identifiers are read under the spelling that is written. -/
theorem idsField_of_includes {fields : Fields} {p : Payload}
    (hinc : Fields.Includes fields p.toFields) (hids : Fields.get? fields "object_ids" = none) :
    idsField fields = .ok (some p.objectIds) := by
  have hfirst := faithful_asText.list.field? hinc "objectIds" p.objectIds (by simp [toFields])
    fun _ _ => trivial
  have hsecond : field? fields "object_ids" (asList asText) = .ok none := by
    rw [field?, hids]
  rw [idsField, hfirst]
  simp only [ok_bind, Fields.contains, hids, hsecond]
  rfl

theorem ofFields_of_includes {fields : Fields} {p : Payload} (h : p.Valid)
    (hinc : Fields.Includes fields p.toFields) (hids : Fields.get? fields "object_ids" = none) :
    ofFields fields = .ok p := by
  have haccount := faithful_asText.field? hinc "account_id" p.accountId (by simp [toFields]) trivial
  have htoken := faithful_asOptionalText.field? hinc "auth_token" p.authToken
    (by simp [toFields]) trivial
  have hconfig := ServiceSettings.faithful.field? hinc "config" p.config (by simp [toFields])
    h.config
  have hevent := faithful_asText.field? hinc "event" p.event (by simp [toFields]) trivial
  have hproject := faithful_asText.field? hinc "project_id" p.projectId (by simp [toFields]) trivial
  have hvars := faithful_asFields.field? hinc "vars" p.vars (by simp [toFields]) h.vars
  rw [ofFields, haccount, htoken, hconfig, hevent, idsField_of_includes hinc hids, hproject, hvars]
  rfl

theorem faithful : Faithful decode encode Valid :=
  faithful_record "ExecutionPayload" (fun _ _ => valid_of_ofFields) (fun _ _ => valid_of_ofItems)
    (fun _ => toFields_wellFormed) fun _ h =>
      ofFields_of_includes h (Fields.includes_self (toFields_wellFormed h).ascending.nodup) rfl

end Payload

namespace Call

/-- A call whose payload and parameters can be written. -/
structure Valid (c : Call) : Prop where
  payload : c.payload.Valid
  params : c.params.WellFormed

theorem faithful_decodeActivity :
    Faithful decodeActivity (fun name => .object [("name", .text name)]) fun _ => True :=
  faithful_record "ActivityDescriptor" (fun _ _ _ _ => trivial) (fun _ _ _ _ => trivial)
    (fun name _ => .of_keys ["name"] rfl (by decide) ⟨.text name, trivial⟩) fun _ _ => rfl

theorem valid_of_ofFields {fields : Fields} {c : Call} (hfields : fields.WellFormed)
    (h : ofFields fields = .ok c) : c.Valid := by
  simp only [ofFields, bind_eq_ok, pure_eq_ok] at h
  obtain ⟨_, -, params, hparams, _, -, _, -, _, -, payload, hpayload, rfl⟩ := h
  exact ⟨Payload.valid_of_ofFields hfields hpayload,
    valid_getD (faithful_asFields.sound.field? hfields hparams) .nil⟩

theorem toFields_wellFormed {c : Call} (h : c.Valid) : c.toFields.WellFormed := by
  refine (Payload.toFields_wellFormed h.payload).insertAll ?_
  intro e he
  simp only [List.mem_cons, List.not_mem_nil, or_false] at he
  rcases he with rfl | rfl | rfl
  · exact h.params
  · exact faithful_decodeActivity.wellFormed c.activity trivial
  · exact .text c.workflow

/-- The entries of a call that are not its payload's. -/
def ownFields (c : Call) : Fields :=
  [("params", .object c.params), ("activity", .object [("name", .text c.activity)]),
    ("workflow_name", .text c.workflow)]

theorem ownFields_nodup (c : Call) : (c.ownFields.map Prod.fst).Nodup := by
  simp [ownFields]

theorem toFields_includes_payload (c : Call) : Fields.Includes c.toFields c.payload.toFields := by
  have hself : Fields.Includes c.payload.toFields c.payload.toFields :=
    Fields.includes_self (by simp [Payload.toFields])
  exact hself.insertAll c.ownFields_nodup (by simp [Payload.toFields])

theorem ofFields_toFields {c : Call} (h : c.Valid) : ofFields c.toFields = .ok c := by
  have hown : Fields.Includes c.toFields c.ownFields :=
    Fields.includes_insertAll _ c.ownFields_nodup
  have hactivity := faithful_decodeActivity.field? hown "activity" c.activity (by simp [ownFields])
    trivial
  have hparams := faithful_asFields.field? hown "params" c.params (by simp [ownFields]) h.params
  have hworkflow := faithful_asText.field? hown "workflow_name" c.workflow (by simp [ownFields])
    trivial
  have hids : Fields.get? c.toFields "object_ids" = none :=
    Fields.get?_insertAll c.payload.toFields c.ownFields c.ownFields_nodup "object_ids"
  rw [ofFields, hactivity, hparams, hworkflow]
  simp only [ok_bind, required,
    Payload.ofFields_of_includes h.payload c.toFields_includes_payload hids]
  rfl

theorem faithful : Faithful decode encode Valid :=
  faithful_openRecord "ActivityCall" (fun _ _ => valid_of_ofFields)
    (fun _ => toFields_wellFormed) fun _ => ofFields_toFields

end Call

end ActivityFlow
