import ActivityFlow.Payload.Reader
import ActivityFlow.Proofs.Document.RoundTrip
import Mathlib.Data.List.TakeWhile

/-!
# Surplus entries

What becomes of an entry whose name a record does not know depends on the record. Most
records skip it: they are read from what is found under their own names. Steps and workflows
refuse it, also where they stand inside another document. Settings keep it and write it back.
-/
namespace ActivityFlow

open Decoding

/-! ## Records that skip what they do not know -/

namespace Decoding

variable {α : Type}

/-- A reader of entries that looks only at those of the given names. -/
def Reads (names : List String) (ofFields : Fields → Result α) : Prop :=
  ∀ fields others, Fields.AgreeOn names fields others → ofFields fields = ofFields others

theorem Reads.insert {names : List String} {ofFields : Fields → Result α}
    (h : Reads names ofFields) {key : String} (hkey : key ∉ names) (fields : Fields)
    (value : Json) : ofFields (Fields.insert fields key value) = ofFields fields :=
  h _ _ (Fields.agreeOn_insert hkey fields value)

theorem Reads.of_subset {names part : List String} {ofFields : Fields → Result α}
    (h : Reads part ofFields) (hpart : part ⊆ names) : Reads names ofFields :=
  fun fields others hagree => h fields others (hagree.mono hpart)

theorem field?_congr {names : List String} {fields others : Fields}
    (h : Fields.AgreeOn names fields others) {key : String} (hkey : key ∈ names)
    (decode : Json → Result α) : field? fields key decode = field? others key decode := by
  rw [field?, h key hkey, field?]

end Decoding

namespace Diagnosis

def fieldNames : List String := ["kind", "message", "retryable", "fields"]

theorem reads_ofFields (source : Decoding.Source) : Reads fieldNames (ofFields source) := by
  intro fields others h
  simp (disch := decide) only [ofFields, field?_congr h]

end Diagnosis

namespace Failure

/-- The tag's name and the names of the entries of every form. -/
def fieldNames : List String := "type" :: "timeout_ms" :: Diagnosis.fieldNames

theorem reads_ofFields (form : Form) : Reads fieldNames (ofFields form) := by
  intro fields others h
  cases form with
  | diagnosed =>
    have hpart : Diagnosis.fieldNames ⊆ fieldNames := by decide
    simp only [ofFields, (Diagnosis.reads_ofFields .aside).of_subset hpart fields others h]
  | undiagnosed => simp (disch := decide) only [ofFields, field?_congr h]
  | timedOut => simp (disch := decide) only [ofFields, field?_congr h]

theorem reads_decode : Reads fieldNames fun fields => decode (.object fields) := by
  intro fields others h
  have hparts : ∀ form, ofFields form (Fields.erase fields "type") =
      ofFields form (Fields.erase others "type") :=
    fun form => reads_ofFields form _ _ (h.erase "type")
  simp (disch := decide) only [decode, field?_congr h, hparts]

end Failure

namespace Payload

/-- The names of a payload's entries, of which the identifiers have two. -/
def entryNames : List String := "object_ids" :: fieldNames

theorem reads_ofFields : Reads entryNames ofFields := by
  intro fields others h
  have hids : Fields.contains fields "object_ids" = Fields.contains others "object_ids" := by
    rw [Fields.contains, h "object_ids" (by decide), Fields.contains]
  simp (disch := decide) only [ofFields, idsField, field?_congr h, hids]

end Payload

namespace Call

def fieldNames : List String := "params" :: "activity" :: "workflow_name" :: Payload.entryNames

theorem reads_ofFields : Reads fieldNames ofFields := by
  intro fields others h
  have hpart : Payload.entryNames ⊆ fieldNames := by decide
  simp (disch := decide) only [ofFields, field?_congr h,
    Payload.reads_ofFields.of_subset hpart fields others h]

end Call

namespace RunRequest

def fieldNames : List String := "workflow" :: Payload.entryNames

theorem reads_ofFields : Reads fieldNames ofFields := by
  intro fields others h
  have hpart : Payload.entryNames ⊆ fieldNames := by decide
  simp (disch := decide) only [ofFields, field?_congr h,
    Payload.reads_ofFields.of_subset hpart fields others h]

end RunRequest

namespace Bundle

/-- The name of a bundle's entry. -/
def fieldNames : List String := ["workflows"]

theorem reads_decode : Reads fieldNames fun fields => decode (.object fields) := by
  intro fields others h
  simp (disch := decide) only [decode, record, field?_congr h]

end Bundle

namespace RecordRequest

def fieldNames : List String := ["type", "query", "limit", "select"]

theorem reads_ofFields : Reads fieldNames ofFields := by
  intro fields others h
  simp (disch := decide) only [ofFields, field?_congr h]

end RecordRequest

namespace CollectionQuery

def fieldNames : List String := ["query", "limit", "select"]

theorem reads_ofFields : Reads fieldNames ofFields := by
  intro fields others h
  simp (disch := decide) only [ofFields, field?_congr h]

end CollectionQuery

namespace RetryPolicy

def fieldNames : List String :=
  ["initial_interval", "backoff_coefficient", "maximum_attempts", "maximum_interval",
    "non_retryable_error_kinds"]

theorem reads_ofFields (source : Decoding.Source) : Reads fieldNames (ofFields source) := by
  intro fields others h
  simp (disch := decide) only [ofFields, field?_congr h]

end RetryPolicy

namespace AttemptOptions

def fieldNames : List String := ["start_to_close_timeout", "retry"]

theorem reads_ofFields (source : Decoding.Source) : Reads fieldNames (ofFields source) := by
  intro fields others h
  simp (disch := decide) only [ofFields, field?_congr h]

end AttemptOptions

namespace Group

def fieldNames : List String := "activities" :: AttemptOptions.fieldNames

theorem reads_ofFields : Reads fieldNames ofFields := by
  intro fields others h
  have hpart : AttemptOptions.fieldNames ⊆ fieldNames := by decide
  simp (disch := decide) only [ofFields, field?_congr h,
    (AttemptOptions.reads_ofFields .aside).of_subset hpart fields others h]

end Group

namespace Groups

/-- The name of the entry that holds groups. -/
def fieldNames : List String := ["groups"]

theorem reads_decode : Reads fieldNames fun fields => decode (.object fields) := by
  intro fields others h
  simp (disch := decide) only [decode, record, field?_congr h]

end Groups

namespace AttemptRecord

def fieldNames : List String := ["activity", "attempts", "transitions"]

theorem reads_ofFields : Reads fieldNames ofFields := by
  intro fields others h
  simp (disch := decide) only [ofFields, field?_congr h]

end AttemptRecord

/-! ## Settings keep what they do not know -/

namespace ServiceSettings

def withEntry (c : ServiceSettings) (key : String) (value : Json) : ServiceSettings :=
  { c with extra := Fields.insert c.extra key value }

theorem ofFields_insert {fields : Fields} (h : Fields.Ascending fields) {key : String}
    (hkey : key ∉ fieldNames) (value : Json) :
    ofFields (Fields.insert fields key value) = (·.withEntry key value) <$> ofFields fields := by
  have hagree := Fields.agreeOn_insert hkey fields value
  obtain ⟨hstudio, hstore⟩ : key ≠ "studio_url" ∧ key ≠ "store_url" := by
    simpa [fieldNames] using hkey
  simp (disch := decide) only [ofFields, field?_congr hagree]
  rw [h.erase_insert_of_ne hstore, (h.erase "store_url").erase_insert_of_ne hstudio]
  simp only [map_eq_pure_bind, bind_assoc, pure_bind, withEntry]

theorem ascending_of_ofFields {fields : Fields} (h : Fields.Ascending fields)
    {c : ServiceSettings} (hc : ofFields fields = .ok c) : Fields.Ascending c.extra := by
  simp only [ofFields, bind_eq_ok, pure_eq_ok] at hc
  obtain ⟨_, -, _, -, rfl⟩ := hc
  exact (h.erase "store_url").erase "studio_url"

theorem toFields_withEntry {c : ServiceSettings} (h : Fields.Ascending c.extra) {key : String}
    (hkey : key ∉ fieldNames) (value : Json) :
    (c.withEntry key value).toFields = Fields.insert c.toFields key value := by
  obtain ⟨hstudio, hstore⟩ : key ≠ "studio_url" ∧ key ≠ "store_url" := by
    simpa [fieldNames] using hkey
  rw [toFields, withEntry, h.insert_comm hstore, (h.insert "store_url" _).insert_comm hstudio]
  rfl

end ServiceSettings

/-! ## Steps and workflows refuse what they do not know -/

namespace Decoding

variable {α : Type}

theorem rejectUnknown_eq_ok_iff {known : List String} {fields : Fields} :
    rejectUnknown known fields = .ok () ↔ ∀ e ∈ fields, e.1 ∈ known := by
  rw [rejectUnknown]
  split
  · next e he =>
    refine ⟨nofun, fun h => ?_⟩
    have hunknown := List.find?_some he
    simp [h e (List.mem_of_find?_eq_some he)] at hunknown
  · next hnone => simpa using hnone

theorem knownPart_eq_self {known : List String} {fields : Fields}
    (h : ∀ e ∈ fields, e.1 ∈ known) : knownPart known fields = fields := by
  rw [knownPart, List.takeWhile_eq_self_iff]
  simpa using h

/-- An array is read only if each of its items is. -/
theorem exists_of_mapM_eq_ok {β : Type} {f : α → Result β} {xs : List α} {ys : List β}
    (h : xs.mapM f = .ok ys) {x : α} (hx : x ∈ xs) : ∃ y, f x = .ok y := by
  induction xs generalizing ys with
  | nil => cases hx
  | cons first rest ih =>
    simp only [List.mapM_cons, bind_eq_ok] at h
    obtain ⟨y, hfirst, later, hlater, -⟩ := h
    rcases List.mem_cons.mp hx with rfl | hx
    · exact ⟨y, hfirst⟩
    · exact ih hlater hx

theorem exists_of_field?_eq_ok {fields : Fields} {key : String} {v : Json}
    (hget : Fields.get? fields key = some v) {decode : Json → Result α} {o : Option α}
    (h : field? fields key decode = .ok o) : ∃ x, decode v = .ok x := by
  simp only [field?, hget, map_eq_ok] at h
  obtain ⟨x, hx, -⟩ := h
  exact ⟨x, hx⟩

end Decoding

namespace Step

theorem known_of_ofFields {fields : Fields} {step : Step} (h : ofFields fields = .ok step) :
    ∀ e ∈ fields, e.1 ∈ fieldNames := by
  simp only [ofFields, bind_eq_ok] at h
  obtain ⟨_, -, _, -, _, -, _, -, _, hreject, -⟩ := h
  exact rejectUnknown_eq_ok_iff.mp hreject

end Step

namespace Workflow

theorem known_of_ofFields {fields : Fields} {w : Workflow} (h : ofFields fields = .ok w) :
    ∀ e ∈ fields, e.1 ∈ fieldNames := by
  simp only [ofFields, bind_eq_ok] at h
  obtain ⟨_, -, _, -, _, -, _, hreject, -⟩ := h
  exact rejectUnknown_eq_ok_iff.mp hreject

theorem exists_step_of_ofFields {fields : Fields} {w : Workflow} {items : List Json}
    (hget : Fields.get? fields "activities" = some (.array items))
    (h : ofFields fields = .ok w) {v : Json} (hv : v ∈ items) :
    ∃ step, Step.decode v = .ok step := by
  have hknown := knownPart_eq_self (known_of_ofFields h)
  simp only [ofFields, hknown, bind_eq_ok] at h
  obtain ⟨_, hsteps, -⟩ := h
  obtain ⟨steps, hlist⟩ := exists_of_field?_eq_ok hget hsteps
  exact exists_of_mapM_eq_ok hlist hv

/-- A workflow that is an array is read only if its steps are. -/
theorem exists_step_of_ofItems {name : Json} {items rest : List Json} {w : Workflow}
    (h : ofItems (name :: .array items :: rest) = .ok w) {v : Json} (hv : v ∈ items) :
    ∃ step, Step.decode v = .ok step := by
  simp only [ofItems, bind_eq_ok] at h
  obtain ⟨_, -, steps, hlist, -⟩ := h
  exact exists_of_mapM_eq_ok hlist hv

end Workflow

namespace Decoding

/-- Named values are read only if each of them is. -/
theorem exists_of_asNamed_eq_ok {α : Type} {decode : Json → Result α} {fields : Fields}
    {xs : List (String × α)} (h : asNamed decode (.object fields) = .ok xs)
    {e : String × Json} (he : e ∈ fields) : ∃ x, decode e.2 = .ok x := by
  obtain ⟨y, hy⟩ := exists_of_mapM_eq_ok h he
  obtain ⟨x, hx, -⟩ := map_eq_ok.mp hy
  exact ⟨x, hx⟩

end Decoding

namespace Bundle

theorem exists_workflow_of_object {fields named : Fields} {bundle : Bundle}
    (hget : Fields.get? fields "workflows" = some (.object named))
    (h : decode (.object fields) = .ok bundle) {e : String × Json} (he : e ∈ named) :
    ∃ w, Workflow.decode e.2 = .ok w := by
  simp only [decode, record, bind_eq_ok] at h
  obtain ⟨_, hfield, -⟩ := h
  obtain ⟨found, hfound⟩ := exists_of_field?_eq_ok hget hfield
  exact exists_of_asNamed_eq_ok hfound he

/-- A bundle that is an array is read only if its workflows are. -/
theorem exists_workflow_of_array {named : Fields} {rest : List Json} {bundle : Bundle}
    (h : decode (.array (.object named :: rest)) = .ok bundle) {e : String × Json}
    (he : e ∈ named) : ∃ w, Workflow.decode e.2 = .ok w := by
  simp only [decode, record, bind_eq_ok] at h
  obtain ⟨found, hfound, -⟩ := h
  exact exists_of_asNamed_eq_ok hfound he

end Bundle

namespace RunRequest

theorem exists_workflow_of_ofFields {fields : Fields} {r : RunRequest} {v : Json}
    (hget : Fields.get? fields "workflow" = some v) (h : ofFields fields = .ok r) :
    ∃ w, Workflow.decode v = .ok w := by
  simp only [ofFields, bind_eq_ok] at h
  obtain ⟨_, hfield, -⟩ := h
  exact exists_of_field?_eq_ok hget hfield

end RunRequest

namespace Format

/-- The names that a record of a kind knows, with its second spellings and those of the parts
whose entries stand among its own. -/
def entryNames : Format → List String
  | diagnosis => Diagnosis.fieldNames
  | failure => Failure.fieldNames
  | serviceSettings => ServiceSettings.fieldNames
  | payload => Payload.entryNames
  | call => Call.fieldNames
  | step => Step.fieldNames
  | workflow => Workflow.fieldNames
  | bundle => Bundle.fieldNames
  | runRequest => RunRequest.fieldNames
  | recordRequest => RecordRequest.fieldNames
  | collectionQuery => CollectionQuery.fieldNames
  | retryPolicy => RetryPolicy.fieldNames
  | attemptOptions => AttemptOptions.fieldNames
  | group => Group.fieldNames
  | groups => Groups.fieldNames
  | attemptRecord => AttemptRecord.fieldNames
  | failureKind | attemptStage => []

/-- The kinds of records that admit no names but their own. -/
def strictKinds : List Format := [step, workflow]

/-- The kinds of records that skip what they do not know. -/
def openKinds : List Format :=
  [diagnosis, failure, payload, call, runRequest, bundle, recordRequest, collectionQuery,
    retryPolicy, attemptOptions, group, groups, attemptRecord]

/-- A record that skips what it does not know is read from the entries of its own names. -/
theorem reads_decode {format : Format} (h : format ∈ openKinds) :
    Reads format.entryNames fun fields => format.decode (.object fields) := by
  cases format with
  | diagnosis => exact Diagnosis.reads_ofFields .direct
  | failure => exact Failure.reads_decode
  | payload => exact Payload.reads_ofFields
  | call => exact Call.reads_ofFields
  | runRequest => exact RunRequest.reads_ofFields
  | bundle => exact Bundle.reads_decode
  | recordRequest => exact RecordRequest.reads_ofFields
  | collectionQuery => exact CollectionQuery.reads_ofFields
  | retryPolicy => exact RetryPolicy.reads_ofFields .direct
  | attemptOptions => exact AttemptOptions.reads_ofFields .direct
  | group => exact Group.reads_ofFields
  | groups => exact Groups.reads_decode
  | attemptRecord => exact AttemptRecord.reads_ofFields
  | failureKind | serviceSettings | step | workflow | attemptStage => simp [openKinds] at h

/-- A place for an object in a document: the document of kind `outer` is `fill entries` when
the object, of kind `inner`, has the given entries. Steps stand in workflows, and workflows in
bundles and requests; each of these but requests may be an array of its parts. -/
inductive Place : Format → Format → (Fields → Json) → Prop
  | top (format : Format) : Place format format .object
  | step {inner : Format} {fill : Fields → Json} (h : Place step inner fill)
      (before after : Fields) (earlier later : List Json)
      (hbefore : "activities" ∉ before.map Prod.fst) :
      Place workflow inner fun entries => .object
        (before ++ ("activities", .array (earlier ++ fill entries :: later)) :: after)
  | stepOfArray {inner : Format} {fill : Fields → Json} (h : Place step inner fill) (name : Json)
      (earlier later rest : List Json) :
      Place workflow inner fun entries => .array
        (name :: .array (earlier ++ fill entries :: later) :: rest)
  | workflow {inner : Format} {fill : Fields → Json} (h : Place workflow inner fill)
      (before after earlier later : Fields) (name : String)
      (hbefore : "workflows" ∉ before.map Prod.fst) :
      Place bundle inner fun entries => .object
        (before ++ ("workflows", .object (earlier ++ (name, fill entries) :: later)) :: after)
  | workflowOfArray {inner : Format} {fill : Fields → Json} (h : Place workflow inner fill)
      (earlier later : Fields) (name : String) (rest : List Json) :
      Place bundle inner fun entries => .array
        (.object (earlier ++ (name, fill entries) :: later) :: rest)
  | requested {inner : Format} {fill : Fields → Json} (h : Place workflow inner fill)
      (before after : Fields) (hbefore : "workflow" ∉ before.map Prod.fst) :
      Place runRequest inner fun entries => .object
        (before ++ ("workflow", fill entries) :: after)

/-- A document is read only if the objects at its places are. -/
theorem Place.exists_of_decode {outer inner : Format} {fill : Fields → Json}
    (h : Place outer inner fill) {entries : Fields} {x : outer.Carrier}
    (hx : outer.decode (fill entries) = .ok x) :
    ∃ y, inner.decode (.object entries) = .ok y := by
  induction h with
  | top format => exact ⟨x, hx⟩
  | step _ before after earlier later hbefore ih =>
    obtain ⟨y, hy⟩ := Workflow.exists_step_of_ofFields
      (Fields.get?_append_cons hbefore _ after) hx List.mem_append_cons_self
    exact ih hy
  | stepOfArray _ name earlier later rest ih =>
    obtain ⟨y, hy⟩ := Workflow.exists_step_of_ofItems hx List.mem_append_cons_self
    exact ih hy
  | workflow _ before after earlier later name hbefore ih =>
    obtain ⟨y, hy⟩ := Bundle.exists_workflow_of_object
      (Fields.get?_append_cons hbefore _ after) hx List.mem_append_cons_self
    exact ih hy
  | workflowOfArray _ earlier later name rest ih =>
    obtain ⟨y, hy⟩ := Bundle.exists_workflow_of_array hx List.mem_append_cons_self
    exact ih hy
  | requested _ before after hbefore ih =>
    obtain ⟨y, hy⟩ := RunRequest.exists_workflow_of_ofFields
      (Fields.get?_append_cons hbefore _ after) hx
    exact ih hy

/-- A step or workflow with an entry of another name than its own is not read. -/
theorem not_decode_of_mem {format : Format} (hformat : format ∈ strictKinds) {fields : Fields}
    {e : String × Json} (he : e ∈ fields) (hname : e.1 ∉ format.entryNames)
    (x : format.Carrier) : format.decode (.object fields) ≠ .ok x := by
  intro hx
  cases format with
  | step => exact hname (Step.known_of_ofFields hx e he)
  | workflow => exact hname (Workflow.known_of_ofFields hx e he)
  | _ => simp [strictKinds] at hformat

/-- An entry that a step or workflow does not know makes every document fail in which the step
or workflow stands. -/
theorem Place.decode_insert_eq_error {outer inner : Format} {fill : Fields → Json}
    (h : Place outer inner fill) (hinner : inner ∈ strictKinds) {key : String}
    (hkey : key ∉ inner.entryNames) (entries : Fields) (value : Json) :
    ∃ e, outer.decode (fill (Fields.insert entries key value)) = .error e := by
  cases hread : outer.decode (fill (Fields.insert entries key value)) with
  | error e => exact ⟨e, rfl⟩
  | ok x =>
    obtain ⟨y, hy⟩ := h.exists_of_decode hread
    exact absurd hy (not_decode_of_mem hinner (Fields.mem_insert_self entries key value) hkey y)

/-- What becomes of an entry with a name that the record does not know: steps and workflows
refuse it, at the top and at every place inside another document; the open records are read, or
refused, as without it; and settings keep it and write it back beside the addresses. -/
theorem decode_surplus (key : String) (value : Json) :
    (∀ outer inner fill, Place outer inner fill → inner ∈ strictKinds → key ∉ inner.entryNames →
      ∀ entries, ∃ e, outer.decode (fill (Fields.insert entries key value)) = .error e) ∧
    (∀ format ∈ openKinds, key ∉ format.entryNames → ∀ fields,
      format.decode (.object (Fields.insert fields key value)) =
        format.decode (.object fields)) ∧
    (key ∉ serviceSettings.entryNames → ∀ fields c, Fields.Ascending fields →
      decode serviceSettings (.object fields) = .ok c →
        let written := Fields.insert c.toFields key value
        decode serviceSettings (.object (Fields.insert fields key value)) =
            .ok (c.withEntry key value) ∧
          encode serviceSettings (c.withEntry key value) = .object written ∧
          Fields.get? written key = some value ∧
          Fields.get? written "studio_url" = some (ServiceSettings.encodeText? c.studioUrl) ∧
          Fields.get? written "store_url" = some (ServiceSettings.encodeText? c.storeUrl)) := by
  refine ⟨?_, ?_, ?_⟩
  · intro outer inner fill hplace hinner hkey entries
    exact hplace.decode_insert_eq_error hinner hkey entries value
  · intro format hformat hkey fields
    exact (reads_decode hformat).insert hkey fields value
  · intro hkey fields c hfields hc written
    have hread : ServiceSettings.ofFields fields = .ok c := hc
    have hnames := Fields.agreeOn_insert hkey c.toFields value
    refine ⟨?_, ?_, Fields.get?_insert_self _ _ _, ?_, ?_⟩
    · have hgrown := ServiceSettings.ofFields_insert hfields hkey value
      rw [hread, map_ok] at hgrown
      exact hgrown
    · exact congrArg Json.object (ServiceSettings.toFields_withEntry
        (ServiceSettings.ascending_of_ofFields hfields hread) hkey value)
    · rw [hnames "studio_url" (by decide), ServiceSettings.get?_studio_toFields]
    · rw [hnames "store_url" (by decide), ServiceSettings.get?_store_toFields]

/-- Misspelled parameters: refused in the step of a request, skipped beside an event, and kept
among settings. -/
theorem decode_surplus_misspelled :
    let parms : Json := .object []
    let written : Fields :=
      [("parms", parms), ("store_url", .text "https://store"), ("studio_url", .null)]
    (∃ e, decode runRequest (.object [("workflow", .object [("activities", .array [
      .object [("name", .text "read"), ("parms", parms)]])])]) = .error e) ∧
    decode payload (.object [("event", .text "upload"), ("parms", parms)]) =
      .ok { (default : Payload) with event := "upload" } ∧
    decode serviceSettings (.object [("parms", parms), ("store_url", .text "https://store")]) =
      .ok ⟨none, some "https://store", [("parms", parms)]⟩ ∧
    encode serviceSettings ⟨none, some "https://store", [("parms", parms)]⟩ =
      .object written := by
  intro parms written
  obtain ⟨hstrict, hopen, hkeep⟩ := decode_surplus "parms" parms
  have hplace : Place runRequest step fun entries => .object [("workflow", .object [("activities",
      .array [.object entries])])] :=
    .requested (.step (.top step) [] [] [] [] (by decide)) [] [] (by decide)
  have hsettings := hkeep (by decide) [("store_url", .text "https://store")]
    ⟨none, some "https://store", []⟩ (List.pairwise_singleton _ _) rfl
  exact ⟨hstrict runRequest step _ hplace (by decide) (by decide) [("name", .text "read")],
    hopen payload (by decide) (by decide) [("event", .text "upload")], hsettings.1,
    hsettings.2.1⟩

end Format

end ActivityFlow
