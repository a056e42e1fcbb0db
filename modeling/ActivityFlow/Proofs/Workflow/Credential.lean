import ActivityFlow.StoreClient
import ActivityFlow.Proofs.Workflow.Admission
import ActivityFlow.Proofs.Workflow.Composition

/-!
# Credentials stay out of reports

Two runs of a request that differ in the credential alone are compared. Activities may hand the
credential on to the world, as long as they do the same with either one. Then nothing that a run
reports tells the credentials apart: not its end, not its histories, not its calls apart from the
credential in them, and no diagnostic text. Of a credential it only matters whether there is one
and, for a client of the content store, whether it can stand in a header.
-/
namespace ActivityFlow

variable {ω : Type}

def Payload.withToken (p : Payload) (token : Option String) : Payload :=
  { p with authToken := token }

def Call.withToken (c : Call) (token : Option String) : Call :=
  { c with payload := c.payload.withToken token }

def Attempt.withToken (attempt : Attempt) (token : Option String) : Attempt :=
  { attempt with call := attempt.call.withToken token }

def RunRequest.withToken (r : RunRequest) (token : Option String) : RunRequest :=
  { r with payload := r.payload.withToken token }

/-! ## Settings and clients -/

def StoreSettings.withKey (s : StoreSettings) (key : String) : StoreSettings :=
  { s with apiKey := key }

def StoreClient.withKey (c : StoreClient) (key : String) : StoreClient := { c with token := key }

/-- A client is refused for its credential only if this cannot stand in a header. -/
theorem StoreClient.ofSettings_withKey (s : StoreSettings) {key : String}
    (h : key.toList.any isHeaderForbidden = s.apiKey.toList.any isHeaderForbidden) :
    ofSettings (s.withKey key) = (·.withKey key) <$> ofSettings s := by
  simp only [ofSettings, StoreSettings.withKey, h]
  cases readUrl "config.studio_url" s.serverUrl with
  | error e => rfl
  | ok serverUrl =>
    cases readUrl "config.store_url" s.storeUrl with
    | error e => rfl
    | ok storeUrl =>
      cases s.apiKey.toList.any isHeaderForbidden with
      | true => rfl
      | false => rfl

/-- Whether a credential can stand in a header, where it goes without the white space around
it. -/
def IsHeaderLegal (token : Option String) : Prop :=
  (Text.trim (token.getD "")).toList.any StoreClient.isHeaderForbidden = false

namespace Payload

variable {p : Payload} {token : Option String}

theorem apiKey_of_storeSettings (hown : IsPresent p.authToken) {s : StoreSettings}
    (h : p.storeSettings = .ok s) : s.apiKey = Text.trim (p.authToken.getD "") := by
  rw [storeSettings, requireSetting_of_isPresent hown] at h
  cases hserver : requireSetting p.config.studioUrl "config.studio_url" with
  | error e =>
    rw [hserver] at h
    cases h
  | ok serverUrl =>
    cases hstore : requireSetting p.config.storeUrl "config.store_url" with
    | error e =>
      rw [hserver, hstore] at h
      cases h
    | ok storeUrl =>
      rw [hserver, hstore] at h
      obtain rfl := Except.ok.inj h
      rfl

section Present

variable (hown : IsPresent p.authToken) (hother : IsPresent token)

include hown hother

theorem describe_withToken : (p.withToken token).describe = p.describe := by
  obtain ⟨own, hown, -⟩ := hown
  obtain ⟨other, rfl, -⟩ := hother
  simp only [describe, withToken, hown, optionListing]

theorem storeSettings_withToken :
    (p.withToken token).storeSettings =
      (·.withKey (Text.trim (token.getD ""))) <$> p.storeSettings := by
  simp only [storeSettings, withToken, requireSetting_of_isPresent hown,
    requireSetting_of_isPresent hother]
  cases requireSetting p.config.studioUrl "config.studio_url" with
  | error e => rfl
  | ok serverUrl =>
    cases requireSetting p.config.storeUrl "config.store_url" with
    | error e => rfl
    | ok storeUrl => rfl

/-- The client for another credential is the same but for the credential, and so is the failure
if there is none. -/
theorem storeClient_withToken (h : IsHeaderLegal token ↔ IsHeaderLegal p.authToken) :
    (p.withToken token).storeClient =
      (·.withKey (Text.trim (token.getD ""))) <$> p.storeClient := by
  have hlegal : (Text.trim (token.getD "")).toList.any StoreClient.isHeaderForbidden =
      (Text.trim (p.authToken.getD "")).toList.any StoreClient.isHeaderForbidden := by
    unfold IsHeaderLegal at h
    exact Bool.not_inj (Bool.coe_false_iff_false.mp h)
  rw [storeClient, storeSettings_withToken hown hother, storeClient]
  cases hsettings : p.storeSettings with
  | error e => rfl
  | ok settings =>
    rw [← apiKey_of_storeSettings hown hsettings] at hlegal
    simp only [Functor.map, Except.map, Except.mapError, bind, Except.bind,
      StoreClient.ofSettings_withKey settings hlegal]
    cases StoreClient.ofSettings settings with
    | error e => rfl
    | ok client => rfl

end Present

theorem validate_of_absent (h : ¬ IsPresent p.authToken) :
    p.validate = .error (missingSetting "auth_token") := by
  rw [validate, storeSettings, requireSetting_of_not_isPresent h]
  rfl

/-- Whether a payload leads to the content store depends on the credential only in that there
has to be one. -/
theorem validate_withToken (h : IsPresent token ↔ IsPresent p.authToken) :
    (p.withToken token).validate = p.validate := by
  by_cases hown : IsPresent p.authToken
  · rw [validate, storeSettings_withToken hown (h.mpr hown), validate]
    cases p.storeSettings with
    | error e => rfl
    | ok settings => rfl
  · have hother : ¬ IsPresent (p.withToken token).authToken := mt h.mp hown
    rw [validate_of_absent hother, validate_of_absent hown]

end Payload

/-! ## Activities, engines and ledgers -/

/-- An activity is indifferent to the credential if it does the same in the same time with the
same result whichever credential its call carries. What it leaves in the world may differ as far
as the relation allows. -/
def Activity.Indifferent (R : ω → ω → Prop) (activity : Activity ω) : Prop :=
  ∀ call token, Routine.Alike R (activity call) (activity (call.withToken token))

theorem Activity.indifferent_of_ignores {activity : Activity ω}
    (h : ∀ call token, activity (call.withToken token) = activity call) :
    activity.Indifferent Eq := by
  intro call token
  rw [h call token]
  exact .refl _

namespace Engine

/-- Two engines with the same histories and related worlds. -/
structure Like (R : ω → ω → Prop) (engine other : Engine ω) : Prop where
  historyLimit : other.historyLimit = engine.historyLimit
  history : other.history = engine.history
  world : R engine.world other.world

theorem alike_attemptFrom {R : ω → ω → Prop} {work work' : Routine ω Outcome}
    (h : Routine.Alike R work work') (options : AttemptOptions) (remaining : Nat)
    (record : AttemptRecord) :
    Routine.Alike (Like R) (attemptFrom work options remaining record)
      (attemptFrom work' options remaining record) := by
  have hconclude : ∀ record last outcome,
      Routine.Alike (Like R) (conclude record last outcome) (conclude record last outcome) := by
    intro record last outcome
    refine .act ?_ fun _ _ _ _ => .done _
    intro _ engine other hlike
    exact ⟨hlike.historyLimit, by simp [recordHistory, hlike.historyLimit, hlike.history],
      hlike.world⟩
  induction remaining generalizing record with
  | zero => exact .done _
  | succ remaining ih =>
    rw [attemptFrom, attemptFrom]
    rcases record.start with ⟨record, fault | attempt⟩
    · exact .done _
    · have hattempt : Routine.Alike (Like R)
          (Routine.timeout options.timeout.ceilMillis (inWorld work))
          (Routine.timeout options.timeout.ceilMillis (inWorld work')) := by
        refine .act (fun _ _ _ hlike => hlike) fun clock _ _ _ => ?_
        refine (h.focus (fun _ _ hlike => hlike.world) ?_).cutOff _ _ _
        exact fun _ _ _ _ hworld hlike => ⟨hlike.historyLimit, hlike.history, hworld⟩
      refine hattempt.bind fun result => ?_
      cases result.getD (.error (overdue options.timeout)) with
      | ok value => exact hconclude _ _ _
      | error failure =>
        by_cases hretries : options.retry.retries failure attempt = true
        · simp only [hretries, if_true]
          exact (Routine.Alike.sleep _).bind fun _ => ih _
        · simp only [hretries]
          exact hconclude _ _ _

end Engine

namespace Ledger

/-- A second ledger has a related world, and the attempts of the first one with another
credential. -/
structure SameButToken (R : ω → ω → Prop) (token : Option String) (ledger later : Ledger ω) :
    Prop where
  world : R ledger.world later.world
  attempts : attemptsIn later.log = (attemptsIn ledger.log).map (Attempt.withToken · token)

theorem follow_withToken (R : ω → ω → Prop) (token : Option String) :
    Follow R (Attempt.withToken · token) (SameButToken R token) where
  world _ _ h := h.world
  setWorld _ _ _ _ hworld h := ⟨hworld, h.attempts⟩
  note _ _ _ _ h hevent := ⟨h.world, attemptsIn_note [] h.attempts hevent⟩

end Ledger

namespace Workflow

variable {R : ω → ω → Prop} {bindings : Bindings ω}
variable (hbindings : ∀ binding ∈ bindings.entries, binding.activity.Indifferent R)
variable (w : Workflow) (payload : Payload) (token : Option String)

include hbindings

theorem alike_run_withToken :
    Routine.Alike (Engine.Like R) (w.run bindings payload)
      (w.run bindings (payload.withToken token)) := by
  rw [← on_program_engine bindings payload w [], ← on_program_engine bindings _ w []]
  refine alike_on_programFrom bindings w.name (S := Eq) ?_ ?_ rfl _ [] w.steps
  · rintro site _ rfl
    rfl
  · intro _ _ _ binding hbinding vars params
    exact Engine.alike_attemptFrom (hbindings binding hbinding _ token) _ _ _

theorem alike_noted_withToken :
    Routine.Alike (Ledger.SameButToken R token)
      ((w.program bindings payload).on (Ledger.platform 0) [])
      ((w.program bindings (payload.withToken token)).on (Ledger.platform 0) []) := by
  refine alike_on_programFrom bindings w.name (S := Eq) ?_ ?_ rfl _ [] w.steps
  · rintro site _ rfl
    rfl
  · rintro site _ rfl binding hbinding vars params
    exact (Ledger.follow_withToken R token).alike_attemptsAfter (fun _ => rfl)
      (hbindings binding hbinding _ token) _ _ _

end Workflow

/-! ## Requests -/

namespace RunRequest

variable (r : RunRequest) (bindings : Bindings ω)

/-- The run of a request on a ledger of the given world. -/
def noted (clock : Clock) (world : ω) : Finish (Ledger ω) (Except RunFailure RunOutcome) :=
  match r.check bindings with
  | .error e => ⟨.error e, clock, Ledger.start world⟩
  | .ok () => r.workflow.noted bindings r.payload clock world

/-- The attempts of a run, in order. -/
def attempts (clock : Clock) (world : ω) : List Attempt := (r.noted bindings clock world).attempts

/-- A run on an engine and a noted run take the same course. -/
theorem run_noted (clock : Clock) (engine : Engine ω) :
    let finish := (r.run bindings).run clock engine
    let noted := r.noted bindings clock engine.world
    finish.value = noted.value ∧ finish.clock = noted.clock ∧
      finish.state.world = noted.state.world := by
  unfold run noted
  cases r.check bindings with
  | error e => exact ⟨rfl, rfl, rfl⟩
  | ok _ =>
    obtain ⟨hvalue, hclock, hworld, -⟩ := r.workflow.noted_spec bindings r.payload clock engine
    exact ⟨hvalue, hclock, hworld⟩

theorem check_withToken {token : Option String}
    (h : IsPresent token ↔ IsPresent r.payload.authToken) :
    (r.withToken token).check bindings = r.check bindings := by
  simp only [check, withToken, Payload.validate_withToken h]

section Present

variable {r} {token : Option String} {R : ω → ω → Prop} {bindings}
variable (hown : IsPresent r.payload.authToken) (hother : IsPresent token)
variable (hbindings : ∀ binding ∈ bindings.entries, binding.activity.Indifferent R)

include hown hother hbindings

theorem alike_run_withToken :
    Routine.Alike (Engine.Like R) (r.run bindings) ((r.withToken token).run bindings) := by
  rw [run, run, r.check_withToken bindings ⟨fun _ => hown, fun _ => hother⟩]
  cases r.check bindings with
  | error e => exact .done _
  | ok _ => exact Workflow.alike_run_withToken hbindings r.workflow r.payload token

/-- With two credentials the same calls are noted, apart from the credential in them. -/
theorem attempts_withToken (clock : Clock) {world world' : ω} (hworld : R world world') :
    (r.withToken token).attempts bindings clock world' =
      (r.attempts bindings clock world).map (Attempt.withToken · token) := by
  rw [attempts, attempts, noted, noted, r.check_withToken bindings ⟨fun _ => hown, fun _ => hother⟩]
  cases r.check bindings with
  | error e => rfl
  | ok _ =>
    have halike := Workflow.alike_noted_withToken hbindings r.workflow r.payload token
    have hstart : Ledger.SameButToken R token (Ledger.start world) (Ledger.start world') :=
      ⟨hworld, rfl⟩
    exact (halike.run clock hstart).2.2.attempts

end Present

/-- A request without a credential is refused. -/
theorem check_ne_ok_of_absent (h : ¬ IsPresent r.payload.authToken) :
    r.check bindings ≠ .ok () := by
  intro hcheck
  rw [check, Payload.validate_of_absent h] at hcheck
  cases hbound : r.workflow.check bindings with
  | error e =>
    rw [hbound] at hcheck
    cases hcheck
  | ok _ =>
    rw [hbound] at hcheck
    cases hcheck

/-- A request without a credential is refused alike, whether the credential is missing or
blank. -/
theorem run_withToken_of_absent {token : Option String} (hown : ¬ IsPresent r.payload.authToken)
    (hother : ¬ IsPresent token) : (r.withToken token).run bindings = r.run bindings := by
  rw [run, run, r.check_withToken bindings ⟨fun h => absurd h hother, fun h => absurd h hown⟩]
  cases hcheck : r.check bindings with
  | error e => rfl
  | ok _ => exact absurd hcheck (r.check_ne_ok_of_absent bindings hown)

/-- Nothing that is reported of a request tells its credential from another one. If both are
there, and the activities are indifferent to the credential, the run ends at the same time with
the same outcome or failure, leaves the same histories, and makes the same calls apart from the
credential in them; the diagnostic texts of the payload and of the settings are the same; and a
client of the content store has the same addresses, or fails in the same way, if both credentials
can stand in a header or neither can. If both are missing or blank the run is the same. The calls
are noted by the run on a ledger, which takes the same course. -/
theorem run_hides_token (r : RunRequest) (token : Option String) (bindings : Bindings ω) :
    let other := r.withToken token
    (∀ clock engine,
      let finish := (r.run bindings).run clock engine
      let noted := r.noted bindings clock engine.world
      finish.value = noted.value ∧ finish.clock = noted.clock ∧
        finish.state.world = noted.state.world) ∧
    (IsPresent r.payload.authToken → IsPresent token →
      (∀ R : ω → ω → Prop, (∀ binding ∈ bindings.entries, binding.activity.Indifferent R) →
        ∀ clock engine engine', Engine.Like R engine engine' →
          let finish := (r.run bindings).run clock engine
          let finish' := (other.run bindings).run clock engine'
          finish'.value = finish.value ∧ finish'.clock = finish.clock ∧
            finish'.state.history = finish.state.history ∧
            R finish.state.world finish'.state.world ∧
            other.attempts bindings clock engine'.world =
              (r.attempts bindings clock engine.world).map (Attempt.withToken · token)) ∧
      other.payload.describe = r.payload.describe ∧
      other.payload.storeSettings.map StoreSettings.describe =
        r.payload.storeSettings.map StoreSettings.describe ∧
      ((IsHeaderLegal token ↔ IsHeaderLegal r.payload.authToken) →
        other.payload.storeClient.map (fun c => (c.serverUrl, c.storeUrl, c.endpoint)) =
          r.payload.storeClient.map fun c => (c.serverUrl, c.storeUrl, c.endpoint))) ∧
    (¬ IsPresent r.payload.authToken → ¬ IsPresent token →
      other.run bindings = r.run bindings) := by
  intro other
  refine ⟨r.run_noted bindings, ?_, r.run_withToken_of_absent bindings⟩
  intro hown hother
  refine ⟨?_, Payload.describe_withToken hown hother, ?_, ?_⟩
  · intro R hbindings clock engine engine' hlike finish finish'
    obtain ⟨hvalue, hclock, hstate⟩ :=
      (alike_run_withToken hown hother hbindings).run clock hlike
    exact ⟨hvalue.symm, hclock.symm, hstate.history, hstate.world,
      attempts_withToken hown hother hbindings clock hlike.world⟩
  · have hsettings : other.payload.storeSettings = _ :=
      Payload.storeSettings_withToken hown hother
    rw [hsettings]
    cases r.payload.storeSettings with
    | error e => rfl
    | ok settings => rfl
  · intro hlegal
    have hclient : other.payload.storeClient = _ :=
      Payload.storeClient_withToken hown hother hlegal
    rw [hclient]
    cases r.payload.storeClient with
    | error e => rfl
    | ok client => rfl

set_option maxRecDepth 4000 in
/-- An activity that counts its calls, and a second credential with white space around it. -/
theorem run_hides_token_counted :
    let count : Activity Nat := fun call =>
      Routine.transact fun _ made => (.ok (.object call.params), made + 1)
    let bindings : Bindings Nat := ⟨"nightly", [⟨"publish", count, .standard⟩]⟩
    let payload : Payload := { (default : Payload) with
      authToken := some "tok", config := ⟨some "https://studio", some "https://store", []⟩ }
    let r : RunRequest := ⟨payload, ⟨"ingest", [⟨"publish", [], [], none⟩], []⟩⟩
    let token : Option String := some " s3cret\n"
    let engine : Engine Nat := Engine.start 256 7
    (∀ call token, count (call.withToken token) = count call) ∧
    (((r.withToken token).run bindings).run ⟨0, 0⟩ engine).value =
      .ok ⟨"ingest", .object [], [], [⟨0, "publish", [], .object []⟩]⟩ ∧
    (((r.withToken token).run bindings).run ⟨0, 0⟩ engine).state.history =
      [⟨"publish", 1, [.pending, .attempting, .succeeded]⟩] ∧
    (r.withToken token).attempts bindings ⟨0, 0⟩ 7 =
      [⟨0, ⟨payload.withToken token, "ingest", "publish", []⟩, 1⟩] ∧
    (payload.withToken token).describe = payload.describe ∧
    (payload.withToken token).storeClient.map (fun c => (c.serverUrl, c.storeUrl, c.endpoint)) =
      payload.storeClient.map (fun c => (c.serverUrl, c.storeUrl, c.endpoint)) ∧
    ((r.withToken none).withToken (some "\t")).run bindings = (r.withToken none).run bindings := by
  intro count bindings payload r token engine
  have hignores : ∀ call token, count (call.withToken token) = count call := fun _ _ => rfl
  have hbindings : ∀ binding ∈ bindings.entries, binding.activity.Indifferent Eq := by
    intro binding hbinding
    obtain rfl := List.mem_singleton.mp hbinding
    exact Activity.indifferent_of_ignores hignores
  have hown : IsPresent (some "tok") := ⟨_, rfl, 't', by decide, by decide⟩
  have hother : IsPresent token := ⟨_, rfl, 's', by decide, by decide⟩
  have hstudio : IsPresent (some "https://studio") := ⟨_, rfl, 'h', by decide, by decide⟩
  have hstore : IsPresent (some "https://store") := ⟨_, rfl, 'h', by decide, by decide⟩
  have hlegal : IsHeaderLegal token ↔ IsHeaderLegal (some "tok") :=
    ⟨fun _ => by unfold IsHeaderLegal; decide, fun _ => by unfold IsHeaderLegal; decide⟩
  have hcheck : r.check bindings = .ok () := by
    refine check_of_admitted ?_ ?_
    · simp only [Workflow.Unbound]
      decide
    · simp only [r, payload, Payload.neededSettings, List.forall_mem_cons]
      exact ⟨hown, hstudio, hstore, by simp⟩
  have hrun : r.run bindings = r.workflow.run bindings payload := by
    rw [run, hcheck]
  have hended : ((r.workflow.run bindings payload).run ⟨0, 0⟩ engine).value =
      .ok ⟨"ingest", .object [], [], [⟨0, "publish", [], .object []⟩]⟩ := rfl
  have hkept : ((r.workflow.run bindings payload).run ⟨0, 0⟩ engine).state.history =
      [⟨"publish", 1, [.pending, .attempting, .succeeded]⟩] := rfl
  have hattempts : r.attempts bindings ⟨0, 0⟩ 7 =
      [⟨0, ⟨payload, "ingest", "publish", []⟩, 1⟩] := by
    rw [attempts, noted, hcheck]
    rfl
  obtain ⟨-, hpresent, -⟩ := run_hides_token r token bindings
  obtain ⟨hsame, hdescribe, -, hclient⟩ := hpresent hown hother
  obtain ⟨hvalue, -, hhistory, -, hcalls⟩ :=
    hsame Eq hbindings ⟨0, 0⟩ engine engine ⟨rfl, rfl, rfl⟩
  have hblank : ¬ IsPresent (some "\t") := by
    rintro ⟨text, htext, c, hc, hblank⟩
    obtain rfl : "\t" = text := Option.some.inj htext
    have hall : "\t".toList.all Text.isBlank = true := by decide
    simp [List.all_eq_true.mp hall c hc] at hblank
  have hnone : ¬ IsPresent none := by
    rintro ⟨_, htext, -⟩
    cases htext
  obtain ⟨-, -, habsent⟩ := run_hides_token (r.withToken none) (some "\t") bindings
  rw [hrun] at hvalue hhistory
  exact ⟨hignores, hvalue.trans hended, hhistory.trans hkept,
    hcalls.trans (congrArg (List.map _) hattempts), hdescribe, hclient hlegal,
    habsent hnone hblank⟩

end RunRequest

end ActivityFlow
