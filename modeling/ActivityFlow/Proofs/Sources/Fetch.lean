import ActivityFlow.StoreClient
import ActivityFlow.Proofs.Document.Records
import ActivityFlow.Proofs.Engine.Attempts
import ActivityFlow.Proofs.Workflow.Admission

/-!
# The checks of a fetch

The parameters of a fetch are looked at first, then the store, and then the registry. A call
that fails one of these looks is refused: nothing is done, and the diagnosis says which kind of
mistake it was and in which parameter. A call that passes them gets what its source answers.
-/
namespace ActivityFlow

variable {ω π : Type}

/-! ## Refusals -/

/-- A diagnosis of the given kind that names a parameter. -/
structure Diagnosis.Blames (diagnosis : Diagnosis) (kind : FailureKind) (param : String) :
    Prop where
  kind_eq : diagnosis.kind = kind
  param_eq : Fields.get? diagnosis.details "param" = some (.text param)

/-- An activity refuses a call: it does nothing and fails, with a diagnosis of the given kind
that names a parameter. -/
def Refuses (activity : Activity ω) (call : Call) (kind : FailureKind) (param : String) : Prop :=
  ∃ diagnosis, activity call = .done (.error (.diagnosed diagnosis)) ∧ diagnosis.Blames kind param

theorem blames_activityParamNotFound (activity param : String) :
    (Diagnosis.activityParamNotFound activity param).Blames .activityParamNotFound param :=
  ⟨rfl, Fields.get?_insert_self ..⟩

theorem blames_activityParamInvalid (activity param reason : String) :
    (Diagnosis.activityParamInvalid activity param reason).Blames .activityParamInvalid param := by
  refine ⟨rfl, ?_⟩
  rw [Diagnosis.activityParamInvalid, Diagnosis.withDetail,
    Fields.get?_insert_of_ne _ _ (by decide)]
  exact Fields.get?_insert_self ..

theorem blames_missingSetting (name : String) :
    (missingSetting name).Blames .activityParamNotFound name :=
  ⟨rfl, Fields.get?_insert_self ..⟩

/-- Under a policy that retries no kind of failure, a call that is refused is attempted once. -/
theorem Refuses.run_invoke {activity : Activity ω} {call : Call} {kind : FailureKind}
    {param : String} (h : Refuses activity call kind param) {options : AttemptOptions}
    (hfinal : ∀ kind, kind ∈ options.retry.finalKinds) (clock : Clock) (engine : Engine ω) :
    ∃ diagnosis : Diagnosis, diagnosis.Blames kind param ∧
      (Engine.invoke activity call options).run clock engine =
        ⟨.error (.diagnosed diagnosis), ⟨clock.now, clock.turn + 2⟩,
          engine.recordHistory ⟨call.activity, 1, [.pending, .attempting, .failedTerminal]⟩⟩ := by
  obtain ⟨diagnosis, hdone, hblames⟩ := h
  refine ⟨diagnosis, hblames, Engine.run_invoke_of_done hdone ?_ clock engine⟩
  intro failure hfailure
  obtain rfl := Except.error.inj hfailure
  rw [Bool.eq_false_iff, Ne, RetryPolicy.retries_iff]
  rintro ⟨hkinds, -⟩
  exact hkinds diagnosis rfl (hfinal diagnosis.kind)

/-! ## The parameters -/

namespace RecordRequest

open Decoding

/-- A request is for the source that the parameter says, word for word. -/
theorem source_of_decode {fields : Fields} {request : RecordRequest}
    (h : decode (.object fields) = .ok request) :
    Fields.get? fields "type" = some (.text request.source) := by
  have hfields : ofFields fields = .ok request := h
  simp only [ofFields_eq, bind_eq_ok, pure_eq_ok, required_eq_ok] at hfields
  obtain ⟨q, -, _, hsource, source, rfl, rfl⟩ := hfields
  rw [field?] at hsource
  cases hget : Fields.get? fields "type" with
  | none => simp [hget] at hsource
  | some value =>
    simp only [hget, map_eq_ok, Option.some.injEq] at hsource
    obtain ⟨text, htext, rfl⟩ := hsource
    cases value with
    | text s => rw [asText, Except.ok.injEq] at htext; rw [htext]
    | _ => cases htext

variable {call : Call}

theorem ofCall_of_missing
    (h : Fields.get? call.params "type" = none ∨ Fields.get? call.params "type" = some .null) :
    ofCall call = .error (.activityParamNotFound call.activity "type") := by
  have hrequire : call.requireParam "type" =
      .error (.activityParamNotFound call.activity "type") := by
    rcases h with h | h <;> simp [Call.requireParam, requireParam, h]
  rw [ofCall, Call.requireText, hrequire]
  rfl

theorem requireParam_of_value {value : Json} (h : Fields.get? call.params "type" = some value)
    (hnull : value ≠ .null) : call.requireParam "type" = .ok value := by
  rw [Call.requireParam, requireParam, h]
  cases value with
  | null => exact absurd rfl hnull
  | _ => rfl

theorem ofCall_of_not_text {value : Json} (h : Fields.get? call.params "type" = some value)
    (hnull : value ≠ .null) (htext : value.text? = none) :
    ofCall call = .error (.activityParamInvalid call.activity "type" "expected a string") := by
  rw [ofCall, Call.requireText, requireParam_of_value h hnull]
  cases value with
  | text s => cases htext
  | _ => rfl

/-- A request whose source is a text is read as it stands. -/
theorem ofCall_of_text {text : String} (h : Fields.get? call.params "type" = some (.text text)) :
    ofCall call = (decode (.object call.params)).mapError fun e =>
      .activityParamInvalid call.activity "params" e.message := by
  rw [ofCall, Call.requireText, requireParam_of_value h (by simp)]
  rfl

theorem ofCall_of_undecoded {text : String} {e : DecodeError}
    (h : Fields.get? call.params "type" = some (.text text))
    (he : decode (.object call.params) = .error e) :
    ofCall call = .error (.activityParamInvalid call.activity "params" e.message) := by
  rw [ofCall_of_text h, he]
  rfl

theorem ofCall_of_decoded {request : RecordRequest}
    (h : decode (.object call.params) = .ok request) : ofCall call = .ok request := by
  rw [ofCall_of_text (source_of_decode h), h]
  rfl

end RecordRequest

/-! ## The store -/

namespace StoreClient

theorem blames_invalidSetting (e : StoreError) (param reason : String) :
    ∃ diagnosis : Diagnosis, StoreError.invalidSetting e param reason = .diagnosed diagnosis ∧
      diagnosis.Blames .activityParamInvalid param := by
  refine ⟨_, rfl, rfl, ?_⟩
  rw [Diagnosis.withDetail, Fields.get?_insert_of_ne _ _ (by decide)]
  exact Fields.get?_insert_self ..

theorem exists_invalidUrl {setting text : String} {e : StoreError}
    (h : readUrl setting text = .error e) : ∃ reason, e = .invalidUrl setting text reason := by
  unfold readUrl at h
  cases hparse : Url.parse text with
  | error fault =>
    rw [hparse] at h
    exact ⟨fault.message, (Except.error.inj h).symm⟩
  | ok url =>
    rw [hparse] at h
    cases h

/-- If a client cannot be had, one of its three settings is to blame. -/
theorem blames_of_ofSettings {settings : StoreSettings} {e : StoreError}
    (h : ofSettings settings = .error e) :
    ∃ (param : String) (diagnosis : Diagnosis), e.toFailure = .diagnosed diagnosis ∧
      diagnosis.Blames .activityParamInvalid param ∧
        param ∈ ["auth_token", "config.studio_url", "config.store_url"] := by
  have hurl : ∀ {setting text}, readUrl setting text = .error e →
      ∃ diagnosis : Diagnosis, e.toFailure = .diagnosed diagnosis ∧
        diagnosis.Blames .activityParamInvalid setting := by
    intro setting text hread
    obtain ⟨reason, rfl⟩ := exists_invalidUrl hread
    exact blames_invalidSetting _ setting reason
  unfold ofSettings at h
  cases hserver : readUrl "config.studio_url" settings.serverUrl with
  | error e' =>
    obtain rfl : e' = e := by simpa [hserver, bind, Except.bind] using h
    obtain ⟨diagnosis, hfailure, hblames⟩ := hurl hserver
    exact ⟨_, diagnosis, hfailure, hblames, by simp⟩
  | ok serverUrl =>
    cases hstore : readUrl "config.store_url" settings.storeUrl with
    | error e' =>
      obtain rfl : e' = e := by simpa [hserver, hstore, bind, Except.bind] using h
      obtain ⟨diagnosis, hfailure, hblames⟩ := hurl hstore
      exact ⟨_, diagnosis, hfailure, hblames, by simp⟩
    | ok storeUrl =>
      by_cases htoken : settings.apiKey.toList.any isHeaderForbidden = true
      · simp only [hserver, hstore, htoken, Decoding.ok_bind, if_true] at h
        obtain rfl := Except.error.inj h
        obtain ⟨diagnosis, hfailure, hblames⟩ := blames_invalidSetting
          (.invalidToken "contains characters not allowed in a header") "auth_token"
          "contains characters not allowed in a header"
        exact ⟨_, diagnosis, hfailure, hblames, by simp⟩
      · simp only [hserver, hstore, htoken, Decoding.ok_bind] at h
        cases h

end StoreClient

namespace Registry

variable {r : Registry π} {call : Call}
variable {fetch : π → Store ω → RecordRequest → Routine ω (Except Failure (List Json))}
variable {connect : Payload → Except Failure (Store ω)}
variable {kind : FailureKind} {param : String} {diagnosis : Diagnosis} {request : RecordRequest}
variable {store : Store ω}

theorem refuses_of_unread (h : RecordRequest.ofCall call = .error diagnosis)
    (hblames : diagnosis.Blames kind param) :
    Refuses (r.fetchActivity fetch connect) call kind param := by
  refine ⟨diagnosis, ?_, hblames⟩
  rw [fetchActivity, prepareFetch, h]
  rfl

/-- A request that does not lead to a store is refused before the registry is looked at. -/
theorem refuses_of_unconnected (hread : RecordRequest.ofCall call = .ok request)
    (h : connect call.payload = .error (.diagnosed diagnosis))
    (hblames : diagnosis.Blames kind param) :
    Refuses (r.fetchActivity fetch connect) call kind param := by
  refine ⟨diagnosis, ?_, hblames⟩
  rw [fetchActivity, prepareFetch, hread]
  simp only [Except.mapError, Decoding.ok_bind, h]
  rfl

theorem refuses_of_unregistered (hread : RecordRequest.ofCall call = .ok request)
    (hstore : connect call.payload = .ok store) (h : r.get? request.source = none) :
    Refuses (r.fetchActivity fetch connect) call .activityParamInvalid "type" := by
  refine ⟨_, ?_, blames_activityParamInvalid call.activity "type"
    (SetupError.unknownSource request.source).message⟩
  rw [fetchActivity, prepareFetch, hread]
  simp only [Except.mapError, Decoding.ok_bind, hstore, require, h]
  rfl

theorem fetchActivity_of_registered (hread : RecordRequest.ofCall call = .ok request)
    (hstore : connect call.payload = .ok store) {source : π}
    (h : r.get? request.source = some source) :
    r.fetchActivity fetch connect call =
      (fetch source store request).map fun records => records.map .array := by
  rw [fetchActivity, prepareFetch, hread]
  simp only [Except.mapError, Decoding.ok_bind, hstore, require, h]
  rfl

/-- The records of a registered source are given back as one array, and its failure as it is. -/
theorem run_fetchActivity_of_registered (hread : RecordRequest.ofCall call = .ok request)
    (hstore : connect call.payload = .ok store) {source : π}
    (h : r.get? request.source = some source) (clock : Clock) (world : ω) :
    let fetched := (fetch source store request).run clock world
    let finish := (r.fetchActivity fetch connect call).run clock world
    finish.clock = fetched.clock ∧ finish.state = fetched.state ∧
      (∀ records, fetched.value = .ok records → finish.value = .ok (.array records)) ∧
      ∀ failure, fetched.value = .error failure → finish.value = .error failure := by
  intro fetched finish
  have hfinish : finish = ⟨fetched.value.map .array, fetched.clock, fetched.state⟩ := by
    simp only [finish, fetchActivity_of_registered hread hstore h, Routine.run_map]
    rfl
  rw [hfinish]
  refine ⟨rfl, rfl, ?_, ?_⟩
  · intro records hrecords
    rw [hrecords]
    rfl
  · intro failure hfailure
    rw [hfailure]
    rfl

end Registry

/-! ## The fetch -/

namespace Payload

variable {p : Payload} {exchange : Exchange ω}

theorem storeOr_of_firstIn {place : Nat} {e : String × Option String}
    (h : FirstIn p.neededSettings (fun e => ¬ IsPresent e.2) place e) :
    p.storeOr none exchange = .error (.diagnosed (missingSetting e.1)) := by
  rw [storeOr, store, storeClient, storeSettings_of_firstIn h]
  rfl

/-- A payload with all settings leads to no store only if one of them is to blame. -/
theorem storeOr_of_unusable (hpresent : ∀ e ∈ p.neededSettings, IsPresent e.2)
    (h : ∀ client, p.storeClient ≠ .ok client) :
    ∃ (param : String) (diagnosis : Diagnosis),
      p.storeOr none exchange = .error (.diagnosed diagnosis) ∧
        diagnosis.Blames .activityParamInvalid param ∧
          param ∈ p.neededSettings.map Prod.fst := by
  have hclient : p.storeClient = (StoreClient.ofSettings ⟨Text.trim (p.config.studioUrl.getD ""),
      Text.trim (p.config.storeUrl.getD ""), Text.trim (p.authToken.getD "")⟩).mapError
        StoreError.toFailure := by
    rw [storeClient, storeSettings_of_present hpresent]
    simp only [Except.mapError, Decoding.ok_bind]
  cases hsettings : StoreClient.ofSettings ⟨Text.trim (p.config.studioUrl.getD ""),
      Text.trim (p.config.storeUrl.getD ""), Text.trim (p.authToken.getD "")⟩ with
  | ok client =>
    rw [hsettings] at hclient
    exact absurd hclient (h client)
  | error e =>
    obtain ⟨param, diagnosis, hfailure, hblames, hparam⟩ :=
      StoreClient.blames_of_ofSettings hsettings
    refine ⟨param, diagnosis, ?_, hblames, hparam⟩
    simp only [storeOr, store, hclient, hsettings, Except.mapError, Except.map, hfailure]

end Payload

namespace Registry

/-- The checks of a fetch, over a registry of sources of any kind. A call is refused for its
source if this is missing or not a text, and otherwise for its parameters if they cannot be read.
A call that was read and has no store supplied is refused for the first setting of its payload
that is missing or blank, and for an address or a credential that cannot be used. A call with a
store is refused for its source if this is not registered word for word, and otherwise gets the
records of this source in their order, or its failure. What is refused is attempted once if the
policy retries no kind of failure. -/
theorem fetchActivity_checks (r : Registry π)
    (fetch : π → Store ω → RecordRequest → Routine ω (Except Failure (List Json)))
    (supplied : Option (Store ω)) (exchange : Exchange ω) (call : Call) :
    let activity := r.fetchActivity fetch (Payload.storeOr supplied exchange)
    let type := Fields.get? call.params "type"
    let decoded := RecordRequest.decode (.object call.params)
    let needed := call.payload.neededSettings
    (type = none ∨ type = some .null → Refuses activity call .activityParamNotFound "type") ∧
    (∀ value, type = some value → value ≠ .null → value.text? = none →
      Refuses activity call .activityParamInvalid "type") ∧
    (∀ text e, type = some (.text text) → decoded = .error e →
      Refuses activity call .activityParamInvalid "params") ∧
    (∀ request, decoded = .ok request → type = some (.text request.source) ∧
      (supplied = none → (∃ e ∈ needed, ¬ IsPresent e.2) →
        ∃ place name value, FirstIn needed (fun e => ¬ IsPresent e.2) place (name, value) ∧
          Refuses activity call .activityParamNotFound name) ∧
      (supplied = none → (∀ e ∈ needed, IsPresent e.2) →
        (∀ client, call.payload.storeClient ≠ .ok client) →
          ∃ name ∈ needed.map Prod.fst, Refuses activity call .activityParamInvalid name) ∧
      ∀ store, call.payload.storeOr supplied exchange = .ok store →
        (r.get? request.source = none → Refuses activity call .activityParamInvalid "type") ∧
        ∀ source, r.get? request.source = some source → ∀ clock world,
          let fetched := (fetch source store request).run clock world
          let finish := (activity call).run clock world
          finish.clock = fetched.clock ∧ finish.state = fetched.state ∧
            (∀ records, fetched.value = .ok records → finish.value = .ok (.array records)) ∧
            ∀ failure, fetched.value = .error failure → finish.value = .error failure) ∧
    ∀ kind param, Refuses activity call kind param →
      ∀ options : AttemptOptions, (∀ kind, kind ∈ options.retry.finalKinds) → ∀ clock engine,
        ∃ diagnosis : Diagnosis, diagnosis.Blames kind param ∧
          (Engine.invoke activity call options).run clock engine =
            ⟨.error (.diagnosed diagnosis), ⟨clock.now, clock.turn + 2⟩, engine.recordHistory
              ⟨call.activity, 1, [.pending, .attempting, .failedTerminal]⟩⟩ := by
  intro activity type decoded needed
  refine ⟨?_, ?_, ?_, ?_, fun kind param h options hfinal => h.run_invoke hfinal⟩
  · intro hmissing
    exact refuses_of_unread (RecordRequest.ofCall_of_missing hmissing)
      (blames_activityParamNotFound _ _)
  · intro value hvalue hnull htext
    exact refuses_of_unread (RecordRequest.ofCall_of_not_text hvalue hnull htext)
      (blames_activityParamInvalid _ _ _)
  · intro text e htext he
    exact refuses_of_unread (RecordRequest.ofCall_of_undecoded htext he)
      (blames_activityParamInvalid _ _ _)
  · intro request (hdecoded : RecordRequest.decode (.object call.params) = .ok request)
    have hread : RecordRequest.ofCall call = .ok request :=
      RecordRequest.ofCall_of_decoded hdecoded
    refine ⟨RecordRequest.source_of_decode hdecoded, ?_, ?_, ?_⟩
    · rintro rfl hmissing
      obtain ⟨place, ⟨name, value⟩, hfirst⟩ := exists_firstIn hmissing
      exact ⟨place, name, value, hfirst, refuses_of_unconnected hread
        (Payload.storeOr_of_firstIn hfirst) (blames_missingSetting name)⟩
    · rintro rfl hpresent hunusable
      obtain ⟨param, diagnosis, hstore, hblames, hparam⟩ :=
        Payload.storeOr_of_unusable hpresent hunusable
      exact ⟨param, hparam, refuses_of_unconnected hread hstore hblames⟩
    · intro store hstore
      exact ⟨refuses_of_unregistered hread hstore, fun source hsource =>
        run_fetchActivity_of_registered hread hstore hsource⟩

/-- A store that counts its queries. Without a source a call is refused although the store is
there; without a store it is refused for the credential before the source is looked up, and is
attempted once; with both it gets the records of the collection. -/
theorem fetchActivity_checks_documents :
    let store : Store Nat :=
      ⟨fun collection _ => Routine.transact fun _ made =>
          (.ok [.text collection, .int made], made + 1), fun _ _ _ => .done (.ok .null)⟩
    let call (params : Fields) : Call := ⟨default, "ingest", "fetch", params⟩
    let activity (supplied : Option (Store Nat)) : Activity Nat :=
      Registry.fetchActivity Sources.builtIn Source.fetch
        (Payload.storeOr supplied fun _ => .done .unanswered)
    let finish := (Engine.invoke (activity none) (call [("type", .text "nope")]) .standard).run
      ⟨0, 0⟩ (Engine.start 256 7)
    Refuses (activity (some store)) (call []) .activityParamNotFound "type" ∧
      (∃ diagnosis : Diagnosis, finish.value = .error (.diagnosed diagnosis) ∧
        diagnosis.kind = .activityParamNotFound ∧ finish.state.world = 7 ∧
        finish.state.history = [⟨"fetch", 1, [.pending, .attempting, .failedTerminal]⟩]) ∧
      ((activity (some store) (call [("type", .text "document")])).run ⟨0, 0⟩ 7).value =
        .ok (.array [.text "objects", .int 7]) := by
  intro store call activity finish
  let exchange : Exchange Nat := fun _ => .done .unanswered
  refine ⟨?_, ?_, ?_⟩
  · obtain ⟨hmissing, -⟩ := fetchActivity_checks Sources.builtIn Source.fetch (some store) exchange
      (call [])
    exact hmissing (.inl rfl)
  · obtain ⟨-, -, -, hread, honce⟩ := fetchActivity_checks Sources.builtIn Source.fetch none
      exchange (call [("type", .text "nope")])
    obtain ⟨-, hincomplete, -⟩ := hread ⟨"nope", [], none, none⟩ rfl
    have hblank : ¬ IsPresent none := by
      rintro ⟨text, htext, -⟩
      cases htext
    obtain ⟨_, name, _, -, hrefuses⟩ :=
      hincomplete rfl ⟨("auth_token", none), List.mem_cons_self .., hblank⟩
    obtain ⟨diagnosis, hblames, hinvoke⟩ :=
      honce _ name hrefuses .standard FailureKind.mem_all ⟨0, 0⟩ (Engine.start 256 7)
    have hfinish : finish = ⟨.error (.diagnosed diagnosis), ⟨0, 2⟩,
        (Engine.start 256 7).recordHistory
          ⟨"fetch", 1, [.pending, .attempting, .failedTerminal]⟩⟩ := hinvoke
    rw [hfinish]
    exact ⟨diagnosis, rfl, hblames.kind_eq, rfl, rfl⟩
  · obtain ⟨-, -, -, hread, -⟩ := fetchActivity_checks Sources.builtIn Source.fetch (some store)
      exchange (call [("type", .text "document")])
    obtain ⟨-, -, -, hstore⟩ := hread ⟨"document", [], none, none⟩ rfl
    obtain ⟨-, hfetched⟩ := hstore store rfl
    obtain ⟨-, -, hrecords, -⟩ := hfetched Source.documents rfl ⟨0, 0⟩ 7
    exact hrecords _ rfl

/-- A payload with all settings, one of which is an address without a scheme. The source of the
call would answer with no records, whatever the store, but the call is refused. -/
theorem fetchActivity_of_unusable_address :
    let payload : Payload := { (default : Payload) with
      authToken := some "tok"
      config := ⟨some "https://studio.example.com", some "store.example.com", []⟩ }
    let params : Fields :=
      [("query", .object [("_id", .array [])]), ("type", .text "interaction_run")]
    let request : RecordRequest := ⟨"interaction_run", [("_id", .array [])], none, none⟩
    let activity : Activity Unit :=
      Sources.builtIn.fetchActivity (Payload.storeOr none fun _ => .done .unanswered)
    let call : Call := ⟨payload, "ingest", "fetch", params⟩
    (∀ e ∈ payload.neededSettings, IsPresent e.2) ∧
      RecordRequest.decode (.object params) = .ok request ∧
      Sources.builtIn.get? request.source = some .runs ∧
      (∀ (store : Store Unit) (clock : Clock),
        ((Source.runs.fetch store request).run clock ()).value = .ok []) ∧
      ((activity call).run ⟨0, 0⟩ ()).value ≠ .ok (.array []) ∧
      ∃ diagnosis, activity call = .done (.error (.diagnosed diagnosis)) ∧
        diagnosis.kind = .activityParamInvalid := by
  intro payload params request activity call
  have hpresent : ∀ e ∈ payload.neededSettings, IsPresent e.2 := by
    simp only [Payload.neededSettings, List.forall_mem_cons]
    exact ⟨⟨_, rfl, 't', by decide, by decide⟩, ⟨_, rfl, 'h', by decide, by decide⟩,
      ⟨_, rfl, 's', by decide, by decide⟩, by simp⟩
  have hclient : payload.storeClient = .error (StoreError.toFailure (.invalidUrl
      "config.store_url" "store.example.com" "relative URL without a base")) := by
    decide +kernel
  have hunusable : ∀ client, payload.storeClient ≠ .ok client := by
    intro client
    rw [hclient]
    simp
  obtain ⟨param, diagnosis, hstore, hblames, -⟩ := Payload.storeOr_of_unusable hpresent hunusable
  have hread : RecordRequest.ofCall call = .ok request := rfl
  obtain ⟨diagnosis, hdone, hblames⟩ := refuses_of_unconnected hread hstore hblames
  have hactivity : activity call = .done (.error (.diagnosed diagnosis)) := hdone
  refine ⟨hpresent, rfl, rfl, fun _ _ => rfl, ?_, diagnosis, hactivity, hblames.kind_eq⟩
  rw [hactivity]
  simp [Routine.run]

end Registry

end ActivityFlow
