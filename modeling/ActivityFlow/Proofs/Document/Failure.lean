import ActivityFlow.Proofs.Document.Faithful

/-!
# Failures survive their documents

A diagnosis is read from any object that includes its entries, which is how a failure finds
it beside its tag.
-/
namespace ActivityFlow

open Decoding

theorem FailureKind.faithful (source : Decoding.Source) :
    Faithful (FailureKind.decode source) FailureKind.encode fun _ => True :=
  faithful_asChoice source fun kind => by cases kind <;> rfl

namespace Diagnosis

/-- A diagnosis whose details are a document. -/
def Valid (d : Diagnosis) : Prop := d.details.WellFormed

theorem valid_of_ofFields {source : Decoding.Source} {fields : Fields} {d : Diagnosis}
    (hfields : fields.WellFormed) (h : ofFields source fields = .ok d) : d.Valid := by
  simp only [ofFields, bind_eq_ok, pure_eq_ok] at h
  obtain ⟨details, hdetails, _, -, _, -, _, -, _, -, _, -, rfl⟩ := h
  exact valid_getD (faithful_asFields.sound.field? hfields hdetails) .nil

theorem valid_of_ofItems {source : Decoding.Source} {items : List Json} {d : Diagnosis}
    (hitems : ∀ v ∈ items, v.WellFormed) (h : ofItems source items = .ok d) : d.Valid := by
  simp only [ofItems, bind_eq_ok, pure_eq_ok] at h
  obtain ⟨_, -, _, -, _, -, details, hdetails, _, -, rfl⟩ := h
  exact faithful_asFields.sound.itemD hitems .nil hdetails

theorem toFields_wellFormed {d : Diagnosis} (h : d.Valid) : Fields.WellFormed d.toFields :=
  .of_keys ["fields", "kind", "message", "retryable"] rfl (by decide)
    ⟨h, .text _, .text _, .bool _, trivial⟩

theorem ofFields_of_includes {source : Decoding.Source} {fields : Fields} {d : Diagnosis}
    (h : d.Valid)
    (hinc : Fields.Includes fields d.toFields) : ofFields source fields = .ok d := by
  have hdetails := faithful_asFields.field? hinc "fields" d.details (by simp [toFields]) h
  have hkind := (FailureKind.faithful source).field? hinc "kind" d.kind (by simp [toFields]) trivial
  have htext := faithful_asText.field? hinc "message" d.text (by simp [toFields]) trivial
  have hretryable :=
    faithful_asBool.field? hinc "retryable" d.retryable (by simp [toFields]) trivial
  rw [ofFields, hdetails, hkind, htext, hretryable]
  rfl

theorem faithful (source : Decoding.Source) : Faithful (decode source) encode Valid :=
  faithful_record "ClassifiedError" (fun _ _ => valid_of_ofFields) (fun _ _ => valid_of_ofItems)
    (fun _ => toFields_wellFormed) fun _ h =>
      ofFields_of_includes h (Fields.includes_self (toFields_wellFormed h).ascending.nodup)

end Diagnosis

namespace Failure

/-- A failure whose parts can be written. -/
def Valid : Failure → Prop
  | diagnosed d => d.Valid
  | undiagnosed _ => True
  | timedOut millis => millis < words64

theorem valid_of_ofFields {form : Form} {fields : Fields} {f : Failure}
    (hfields : fields.WellFormed) (h : ofFields form fields = .ok f) : f.Valid := by
  cases form with
  | diagnosed =>
    obtain ⟨d, hd, rfl⟩ := map_eq_ok.mp h
    exact Diagnosis.valid_of_ofFields hfields hd
  | undiagnosed =>
    simp only [ofFields, bind_eq_ok, pure_eq_ok] at h
    obtain ⟨_, -, text, -, rfl⟩ := h
    trivial
  | timedOut =>
    simp only [ofFields, bind_eq_ok, pure_eq_ok] at h
    obtain ⟨o, ho, millis, hrequired, rfl⟩ := h
    rw [required_eq_ok] at hrequired
    exact faithful_asWord64.sound.field? hfields ho millis hrequired

theorem valid_of_ofItems {form : Form} {items : List Json} {f : Failure}
    (hitems : ∀ v ∈ items, v.WellFormed) (h : ofItems form items = .ok f) : f.Valid := by
  cases form with
  | diagnosed =>
    obtain ⟨d, hd, rfl⟩ := map_eq_ok.mp h
    exact Diagnosis.valid_of_ofItems hitems hd
  | undiagnosed =>
    simp only [ofItems, bind_eq_ok, pure_eq_ok] at h
    obtain ⟨text, -, _, -, rfl⟩ := h
    trivial
  | timedOut =>
    simp only [ofItems, bind_eq_ok, pure_eq_ok] at h
    obtain ⟨millis, hmillis, _, -, rfl⟩ := h
    exact faithful_asWord64.sound.item hitems hmillis

theorem sound : Sound decode Valid := by
  intro v f hv h
  cases hv with
  | @object fields ascending values =>
    have hfields : fields.WellFormed := .object ascending values
    simp only [decode, bind_eq_ok] at h
    obtain ⟨_, -, form, -, hform⟩ := h
    exact valid_of_ofFields (hfields.erase "type") hform
  | @array items items_wellFormed =>
    cases items with
    | nil => cases h
    | cons tag rest =>
      simp only [decode, bind_eq_ok] at h
      obtain ⟨form, -, hform⟩ := h
      exact valid_of_ofItems (fun v hv => items_wellFormed v (List.mem_cons_of_mem _ hv)) hform
  | null => cases h
  | bool b => cases h
  | int _ _ => cases h
  | float x => cases h
  | text s => cases h

theorem encode_wellFormed {f : Failure} (h : f.Valid) : f.encode.WellFormed := by
  cases f with
  | diagnosed d => exact (Diagnosis.toFields_wellFormed h).insert "type" (.text _)
  | undiagnosed text =>
    exact Fields.WellFormed.of_keys ["message", "type"] rfl (by decide) ⟨.text _, .text _, trivial⟩
  | timedOut millis =>
    exact Fields.WellFormed.of_keys ["timeout_ms", "type"] rfl (by decide)
      ⟨.nat h, .text _, trivial⟩

/-- A failure is told by its tag, and what is left without the tag are its own entries. -/
theorem decode_encode {f : Failure} (h : f.Valid) : decode f.encode = .ok f := by
  cases f with
  | diagnosed d =>
    have htag : field? (Fields.insert d.toFields "type" (.text "classified")) "type" decodeForm =
        .ok (some .diagnosed) := by
      rw [field?, Fields.get?_insert_self]
      rfl
    have hentries : Fields.erase (Fields.insert d.toFields "type" (.text "classified")) "type" =
        d.toFields := by
      rw [Fields.erase_insert_self]
      exact Fields.erase_of_get?_eq_none rfl
    have hread := (Diagnosis.faithful .aside).decode_encode d h
    simp only [encode, decode, htag, ok_bind, required, hentries, ofFields]
    exact map_eq_ok.mpr ⟨d, hread, rfl⟩
  | undiagnosed text => rfl
  | timedOut millis =>
    have hmillis : field? [("timeout_ms", .int millis)] "timeout_ms" asWord64 =
        .ok (some millis) :=
      faithful_asWord64.field? (Fields.includes_self (by simp))
        "timeout_ms" millis (by simp) h
    have htag : field? [("timeout_ms", .int millis), ("type", .text "timed_out")] "type"
        decodeForm = .ok (some .timedOut) := rfl
    have hentries : Fields.erase [("timeout_ms", .int millis), ("type", .text "timed_out")]
        "type" = [("timeout_ms", .int millis)] := rfl
    simp only [encode, decode, htag, ok_bind, required, hentries, ofFields, hmillis]
    rfl

theorem faithful : Faithful decode encode Valid :=
  ⟨sound, fun _ => encode_wellFormed, fun _ => decode_encode⟩

end Failure

end ActivityFlow
