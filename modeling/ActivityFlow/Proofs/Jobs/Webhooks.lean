import ActivityFlow.Jobs.Webhooks
import ActivityFlow.Proofs.Jobs.Calls
import ActivityFlow.Proofs.Json.Fields
import ActivityFlow.Proofs.Lists.First
import ActivityFlow.Proofs.Workflow.Succession

/-!
# Notifying all webhooks or none

What an entry of the variable asks for is described without the reader of entries. The reader
turns down the whole variable if one entry is no address, wherever it stands, and the job makes
no call then. Otherwise it makes one call for each entry, in the order of the entries.
-/
namespace ActivityFlow

variable {ω : Type}

namespace Webhook

/-! ## Entries -/

/-- An entry gives an address: it is one, or an object that has one. -/
def HasAddress (entry : Json) : Prop :=
  (∃ url, entry = .text url) ∨
    ∃ fields url, entry = .object fields ∧ Fields.get? fields "url" = some (.text url)

/-- What an entry asks for. -/
inductive Asks : Json → Webhook → Prop
  | address (url : String) : Asks (.text url) ⟨url, "POST"⟩
  | plain {fields : Fields} {url : String} (hurl : Fields.get? fields "url" = some (.text url))
    (hmethod : ∀ method, Fields.get? fields "method" ≠ some (.text method)) :
    Asks (.object fields) ⟨url, "POST"⟩
  | named {fields : Fields} {url method : String}
    (hurl : Fields.get? fields "url" = some (.text url))
    (hmethod : Fields.get? fields "method" = some (.text method)) :
    Asks (.object fields) ⟨url, Text.toUpper method⟩

theorem bind_text?_eq_some_iff {o : Option Json} {s : String} :
    o.bind Json.text? = some s ↔ o = some (.text s) := by
  rw [Option.bind_eq_some_iff]
  constructor
  · rintro ⟨v, rfl, hv⟩
    cases v <;> simp [Json.text?] at hv
    rw [hv]
  · rintro rfl
    exact ⟨_, rfl, rfl⟩

theorem toUpper_defaultMethod : Text.toUpper defaultMethod = "POST" := by
  decide +kernel

theorem ofEntry_of_asks {entry : Json} {hook : Webhook} (h : Asks entry hook) :
    ofEntry entry = .ok hook := by
  cases h with
  | address url => rfl
  | @plain fields url hurl hmethod =>
    have hnone : (Fields.get? fields "method").bind Json.text? = none :=
      Option.eq_none_iff_forall_ne_some.mpr fun method heq =>
        hmethod method (bind_text?_eq_some_iff.mp heq)
    simp only [ofEntry, bind_text?_eq_some_iff.mpr hurl, hnone, Option.getD_none,
      toUpper_defaultMethod]
  | named hurl hmethod =>
    simp only [ofEntry, bind_text?_eq_some_iff.mpr hurl, bind_text?_eq_some_iff.mpr hmethod,
      Option.getD_some]

theorem exists_asks {entry : Json} (h : HasAddress entry) : ∃ hook, Asks entry hook := by
  rcases h with ⟨url, rfl⟩ | ⟨fields, url, rfl, hurl⟩
  · exact ⟨_, .address url⟩
  · by_cases hmethod : ∃ method, Fields.get? fields "method" = some (.text method)
    · obtain ⟨method, hmethod⟩ := hmethod
      exact ⟨_, .named hurl hmethod⟩
    · exact ⟨_, .plain hurl (not_exists.mp hmethod)⟩

/-- The complaint names the variable. -/
theorem get?_param_invalid (reason : String) :
    (invalid reason).kind = .activityParamInvalid ∧
      Fields.get? (invalid reason).details "param" = some (.text "webhooks") :=
  ⟨rfl, Fields.get?_insert_self ..⟩

theorem ofEntry_of_not_hasAddress {entry : Json} (h : ¬ HasAddress entry) :
    ∃ reason, ofEntry entry = .error (invalid reason) := by
  cases entry with
  | text url => exact absurd (.inl ⟨url, rfl⟩) h
  | object fields =>
    have hnone : (Fields.get? fields "url").bind Json.text? = none :=
      Option.eq_none_iff_forall_ne_some.mpr fun url heq =>
        h (.inr ⟨fields, url, rfl, bind_text?_eq_some_iff.mp heq⟩)
    exact ⟨"entry is missing 'url'", by simp only [ofEntry, hnone]⟩
  | _ => exact ⟨_, rfl⟩

/-! ## The variable -/

/-- All entries are read if each of them has an address. -/
theorem mapM_ofEntry_of_asks {entries : List Json} {hooks : List Webhook}
    (h : List.Forall₂ Asks entries hooks) : entries.mapM ofEntry = .ok hooks := by
  induction h with
  | nil => rfl
  | cons hfirst hrest ih =>
    rw [List.mapM_cons, ofEntry_of_asks hfirst, ih]
    rfl

theorem mapM_ofEntry_of_exists {entries : List Json} (h : ∃ entry ∈ entries, ¬ HasAddress entry) :
    ∃ reason, entries.mapM ofEntry = .error (invalid reason) := by
  obtain ⟨place, entry, hfirst⟩ := exists_firstIn h
  obtain ⟨reason, hreason⟩ := ofEntry_of_not_hasAddress hfirst.holds
  refine ⟨reason, mapM_of_firstIn hfirst (fun other hother => ?_) hreason⟩
  obtain ⟨hook, hasks⟩ := exists_asks (not_not.mp hother)
  exact ⟨hook, ofEntry_of_asks hasks⟩

theorem exists_forall₂_asks {entries : List Json} (h : ∀ entry ∈ entries, HasAddress entry) :
    ∃ hooks, List.Forall₂ Asks entries hooks := by
  induction entries with
  | nil => exact ⟨[], .nil⟩
  | cons first rest ih =>
    obtain ⟨hook, hfirst⟩ := exists_asks (h first (List.mem_cons_self ..))
    obtain ⟨hooks, hrest⟩ := ih fun entry hentry => h entry (List.mem_cons_of_mem _ hentry)
    exact ⟨hook :: hooks, .cons hfirst hrest⟩

/-- A variable that is no array of entries with an address is turned down. -/
theorem ofVar_of_exists {value : Json}
    (h : ∀ entries, value = .array entries → ∃ entry ∈ entries, ¬ HasAddress entry) :
    ∃ reason, ofVar value = .error (invalid reason) := by
  cases value with
  | array entries => exact mapM_ofEntry_of_exists (h entries rfl)
  | _ => exact ⟨_, rfl⟩

/-- The call that an address gets. -/
def callFor (payload : Payload) (hook : Webhook) : Call where
  payload := payload
  workflow := "notify_webhooks"
  activity := "notify_webhook"
  params := [
    ("method", .text hook.method),
    ("payload", .object [
      ("account_id", .text payload.accountId),
      ("event", .text payload.event),
      ("objectIds", .array (payload.objectIds.map .text)),
      ("project_id", .text payload.projectId)]),
    ("webhook", .text hook.url)]

end Webhook

open Webhook

variable {bindings : Bindings ω} {binding : Binding ω}

theorem notifyWebhooks_of_rejected {payload : Payload} {d : Diagnosis}
    (h : ofPayload payload = .error d) :
    notifyWebhooks bindings payload = .done (.error (.rejected "notify_webhooks" d)) := by
  rw [notifyWebhooks, h]
  rfl

theorem notifyWebhooks_of_accepted (hbound : bindings.get? "notify_webhook" = some binding)
    {payload : Payload} {hooks : List Webhook} (h : ofPayload payload = .ok hooks) :
    notifyWebhooks bindings payload =
      callAll Engine.platform "notify_webhooks" binding (hooks.map (callFor payload)) := by
  have hrequire : bindings.require activityName = .ok binding := Bindings.require_eq_ok hbound
  simp only [notifyWebhooks, h, hrequire]
  exact callEach_map _ (Bindings.name_of_get? hbound) payload (params payload) hooks

/-- The job makes no call unless every entry of its variable is an address or an object with an
address. Otherwise it makes one call for each entry, all side by side, and its results are
theirs in the order of the entries. -/
theorem notifyWebhooks_calls_each (hbound : bindings.get? "notify_webhook" = some binding)
    (payload : Payload) :
    ((∀ value, Fields.get? payload.vars "webhooks" = some value → value = .null) →
      ∃ d, d.kind = .workflowParamNotFound ∧
        notifyWebhooks bindings payload = .done (.error (.rejected "notify_webhooks" d))) ∧
    (∀ value, Fields.get? payload.vars "webhooks" = some value → value ≠ .null →
      (∀ entries, value = .array entries → ∃ entry ∈ entries, ¬ HasAddress entry) →
      ∃ d, d.kind = .activityParamInvalid ∧
        Fields.get? d.details "param" = some (.text "webhooks") ∧
        notifyWebhooks bindings payload = .done (.error (.rejected "notify_webhooks" d))) ∧
    (∀ entries, Fields.get? payload.vars "webhooks" = some (.array entries) →
      (∀ entry ∈ entries, HasAddress entry) →
      ∃ hooks, List.Forall₂ Asks entries hooks ∧
        (entries = [] → notifyWebhooks bindings payload = .done (.ok [])) ∧
        ∀ (limit : Nat) (clock : Clock) (engine : Engine ω),
          let finish := (notifyWebhooks bindings payload).run clock engine
          let noted := (callAll (Ledger.platform limit) "notify_webhooks" binding
            (hooks.map (callFor payload))).run clock (Ledger.start engine.world)
          finish.value = noted.value ∧ finish.clock = noted.clock ∧
            finish.state.world = noted.state.world ∧
            ∃ outcomes, EachCalled "notify_webhooks" "notify_webhook"
              (hooks.map (callFor payload)) noted.state.log outcomes finish.value) := by
  refine ⟨?_, ?_, ?_⟩
  · intro habsent
    refine ⟨.workflowParamNotFound "webhooks", rfl, notifyWebhooks_of_rejected ?_⟩
    rw [ofPayload, varName, requireVar_of_absent habsent]
    rfl
  · intro value hvalue hnull hbad
    obtain ⟨reason, hreason⟩ := ofVar_of_exists hbad
    refine ⟨_, (get?_param_invalid reason).1, (get?_param_invalid reason).2,
      notifyWebhooks_of_rejected ?_⟩
    rw [ofPayload, varName, requireVar_of_present hvalue hnull]
    exact hreason
  · intro entries hentries haddresses
    obtain ⟨hooks, hasks⟩ := exists_forall₂_asks haddresses
    have hread : ofPayload payload = .ok hooks := by
      rw [ofPayload, varName, requireVar_of_present hentries (by simp)]
      exact mapM_ofEntry_of_asks hasks
    have heq := notifyWebhooks_of_accepted hbound hread
    refine ⟨hooks, hasks, ?_, ?_⟩
    · rintro rfl
      cases hasks
      exact heq
    · intro limit clock engine
      rw [heq]
      exact run_callAll "notify_webhooks" (Bindings.name_of_get? hbound) _ limit clock engine

/-- Three entries of the three kinds, and the same with one entry more that is no address. -/
theorem notifyWebhooks_calls_each_three :
    let tell : Activity Unit := fun call =>
      .done (.ok (.array [(call.param? "method").getD .null, (call.param? "webhook").getD .null]))
    let binding : Binding Unit := ⟨"notify_webhook", tell, ⟨.seconds 1, .single⟩⟩
    let bindings : Bindings Unit := ⟨"default", [binding]⟩
    let entries : List Json := [.text "https://a.example.com",
      .object [("method", .text "put"), ("url", .text "https://b.example.com")],
      .object [("method", .null), ("url", .text "https://c.example.com")]]
    let payload (entries : List Json) : Payload :=
      { (default : Payload) with vars := [("webhooks", .array entries)] }
    let finish := (notifyWebhooks bindings (payload entries)).run ⟨0, 0⟩ (Engine.start 256 ())
    bindings.get? "notify_webhook" = some binding ∧
      finish.value = .ok [
        .array [.text "POST", .text "https://a.example.com"],
        .array [.text "PUT", .text "https://b.example.com"],
        .array [.text "POST", .text "https://c.example.com"]] ∧
      (∃ hooks log outcomes, List.Forall₂ Asks entries hooks ∧
        EachCalled "notify_webhooks" "notify_webhook" (hooks.map (callFor (payload entries))) log
          outcomes finish.value) ∧
      ∃ d, d.kind = .activityParamInvalid ∧
        notifyWebhooks bindings (payload (entries ++ [.bool true])) =
          .done (.error (.rejected "notify_webhooks" d)) := by
  intro tell binding bindings entries payload finish
  have hbound : bindings.get? "notify_webhook" = some binding := rfl
  have haddresses : ∀ entry ∈ entries, HasAddress entry := by
    simp [entries, HasAddress, Fields.get?_cons]
  have hno : ¬ HasAddress (.bool true) := by simp [HasAddress]
  obtain ⟨-, -, haccepted⟩ := notifyWebhooks_calls_each hbound (payload entries)
  obtain ⟨hooks, hasks, -, hruns⟩ := haccepted entries rfl haddresses
  obtain ⟨-, -, -, outcomes, hcalled⟩ := hruns 0 ⟨0, 0⟩ (Engine.start 256 ())
  obtain ⟨-, hrejected, -⟩ := notifyWebhooks_calls_each hbound (payload (entries ++ [.bool true]))
  obtain ⟨d, hkind, -, heq⟩ := hrejected _ rfl (by simp) (by
    rintro _ ⟨⟩
    exact ⟨.bool true, by simp, hno⟩)
  exact ⟨hbound, by decide +kernel, ⟨hooks, _, outcomes, hasks, hcalled⟩, d, hkind, heq⟩

end ActivityFlow
