import ActivityFlow.Run
import ActivityFlow.Proofs.Json.Fields
import ActivityFlow.Proofs.Lists.First
import Mathlib.Data.List.TakeWhile

/-!
# Admission of requests

A request is looked at twice before anything is called: all steps of its workflow have to be
bound, and then its payload has to lead to the content store. Each look ends at the first
thing that is wrong. A request that passes both runs as its workflow does, and such a run
never meets a name that is not bound.
-/
namespace ActivityFlow

/-- A result without the given failure keeps away from it when its value is changed. -/
theorem map_ne_error {φ α β : Type} {result : Except φ α} {failure : φ}
    (h : result ≠ .error failure) (f : α → β) : result.map f ≠ .error failure := by
  cases result with
  | ok value => simp [Except.map]
  | error other => simpa [Except.map] using h

/-! ## Names that are not bound -/

namespace Workflow

variable {ω : Type} (bindings : Bindings ω)

/-- Whether a step cannot be called. -/
def Unbound (step : Step) : Prop := bindings.contains step.activity = false

variable {bindings}

theorem not_unbound_iff {step : Step} :
    ¬ Unbound bindings step ↔ bindings.contains step.activity = true := by
  rw [Unbound, Bool.not_eq_false]

theorem unresolvedFrom_eq_none {steps : List Step} (start : Nat)
    (h : ∀ step ∈ steps, ¬ Unbound bindings step) :
    unresolvedFrom bindings start steps = none := by
  induction steps generalizing start with
  | nil => rfl
  | cons step rest ih =>
    have hbound := not_unbound_iff.mp (h step (List.mem_cons_self ..))
    rw [unresolvedFrom, if_pos hbound]
    exact ih (start + 1) fun other hmem => h other (List.mem_cons_of_mem step hmem)

/-- The first step that cannot be called is the one that is found. -/
theorem unresolvedFrom_eq_some {steps : List Step} {index : Nat} {step : Step} (start : Nat)
    (h : FirstIn steps (Unbound bindings) index step) :
    unresolvedFrom bindings start steps = some (start + index, step.activity) := by
  induction steps generalizing start index with
  | nil => simpa using h.at_place
  | cons first rest ih =>
    rcases h.cases_cons with ⟨rfl, rfl⟩ | ⟨n, rfl, hfirst, hrest⟩
    · have hunbound : bindings.contains first.activity = false := h.holds
      simp [unresolvedFrom, hunbound]
    · rw [unresolvedFrom, if_pos (not_unbound_iff.mp hfirst), ih (start + 1) hrest]
      congr 2
      omega

theorem check_of_bound {w : Workflow} (h : ∀ step ∈ w.steps, ¬ Unbound bindings step) :
    w.check bindings = .ok () := by
  rw [check, unresolvedFrom_eq_none 0 h]

theorem check_of_unbound {w : Workflow} {index : Nat} {step : Step}
    (h : FirstIn w.steps (Unbound bindings) index step) :
    w.check bindings = .error (.unresolvedStep w.name index step.activity) := by
  rw [check, unresolvedFrom_eq_some 0 h, Nat.zero_add]

/-- Steps that are all bound never end in a mistake of the setup, wherever they begin. -/
theorem runSteps_ne_setup (workflow : String) (payload : Payload) {steps : List Step}
    (h : ∀ step ∈ steps, ¬ Unbound bindings step) (index : Nat) (vars : Fields) (result : Json)
    (clock : Clock) (engine : Engine ω) (e : SetupError) :
    ((runSteps bindings workflow payload index vars result steps).run clock engine).value ≠
      .error (.setup e) := by
  induction steps generalizing index vars result clock engine with
  | nil => simp [runSteps, Routine.run]
  | cons step rest ih =>
    have hbound := not_unbound_iff.mp (h step (List.mem_cons_self ..))
    obtain ⟨binding, hget⟩ := Option.isSome_iff_exists.mp hbound
    have hlater := ih fun other hmem => h other (List.mem_cons_of_mem step hmem)
    simp only [runSteps, Bindings.require, hget, Routine.run_bind]
    cases ((binding.callIn workflow (payload.withVars vars) (step.resolve vars)).run clock
        engine).value with
    | error failure => simp [Routine.run]
    | ok output =>
      rw [Routine.run_map]
      exact map_ne_error (hlater _ _ _ _ _) _

end Workflow

/-! ## Settings that are missing -/

/-- Whether a part of a payload is there and does not consist of white space. -/
def IsPresent (value : Option String) : Prop :=
  ∃ text, value = some text ∧ ∃ c ∈ text.toList, Text.isBlank c = false

/-- The parts of a payload that a run needs, under the names in reports and in the order in
which they are looked at. -/
def Payload.neededSettings (p : Payload) : List (String × Option String) :=
  [("auth_token", p.authToken), ("config.studio_url", p.config.studioUrl),
    ("config.store_url", p.config.storeUrl)]

theorem Text.trimChars_eq_nil_iff (cs : List Char) :
    Text.trimChars cs = [] ↔ ∀ c ∈ cs, Text.isBlank c = true := by
  rw [trimChars, trimEndChars, List.reverse_eq_nil_iff, List.dropWhile_eq_nil_iff]
  constructor
  · intro h
    refine List.dropWhile_eq_nil_iff.mp ?_
    by_contra hne
    -- What is left of the front begins with no blank.
    have hhead := List.head_dropWhile_not isBlank hne
    have hblank := h _ (List.mem_reverse.mpr (List.head_mem hne))
    simp [hblank] at hhead
  · intro h c hc
    exact h c ((List.dropWhile_sublist isBlank).subset (List.mem_reverse.mp hc))

/-- Nothing is left of a text after trimming exactly if it is white space. -/
theorem Text.isEmpty_trim_iff (s : String) :
    (Text.trim s).isEmpty = true ↔ ∀ c ∈ s.toList, Text.isBlank c = true := by
  rw [← Text.trimChars_eq_nil_iff, Text.trim, String.isEmpty_iff]
  simp

theorem requireSetting_of_not_isPresent {value : Option String} (h : ¬ IsPresent value)
    (name : String) : requireSetting value name = .error (missingSetting name) := by
  have hempty : (Text.trim (value.getD "")).isEmpty = true := by
    rw [Text.isEmpty_trim_iff]
    cases value with
    | none => simp
    | some text =>
      intro c hc
      by_contra hne
      exact h ⟨text, rfl, c, hc, by simpa using hne⟩
  simp [requireSetting, hempty]

theorem requireSetting_of_isPresent {value : Option String} (h : IsPresent value)
    (name : String) : requireSetting value name = .ok (Text.trim (value.getD "")) := by
  obtain ⟨text, rfl, c, hc, hblank⟩ := h
  have hne : ¬ (Text.trim text).isEmpty = true := by
    rw [Text.isEmpty_trim_iff]
    intro hall
    simp [hall c hc] at hblank
  simp [requireSetting, hne]

namespace Payload

variable {p : Payload}

theorem storeSettings_of_present (h : ∀ e ∈ p.neededSettings, IsPresent e.2) :
    p.storeSettings = .ok ⟨Text.trim (p.config.studioUrl.getD ""),
      Text.trim (p.config.storeUrl.getD ""), Text.trim (p.authToken.getD "")⟩ := by
  simp only [neededSettings, List.forall_mem_cons] at h
  obtain ⟨htoken, hstudio, hstore, -⟩ := h
  simp only [storeSettings, requireSetting_of_isPresent htoken,
    requireSetting_of_isPresent hstudio, requireSetting_of_isPresent hstore]
  rfl

/-- The first part that is missing is the one that is reported. -/
theorem storeSettings_of_firstIn {place : Nat} {e : String × Option String}
    (h : FirstIn p.neededSettings (fun e => ¬ IsPresent e.2) place e) :
    p.storeSettings = .error (missingSetting e.1) := by
  rcases h.cases_cons with ⟨-, rfl⟩ | ⟨_, -, htoken, h⟩
  · simp only [storeSettings, requireSetting_of_not_isPresent h.holds]
    rfl
  rw [not_not] at htoken
  rcases h.cases_cons with ⟨-, rfl⟩ | ⟨_, -, hstudio, h⟩
  · simp only [storeSettings, requireSetting_of_isPresent htoken,
      requireSetting_of_not_isPresent h.holds]
    rfl
  rw [not_not] at hstudio
  rcases h.cases_cons with ⟨-, rfl⟩ | ⟨_, -, hstore, h⟩
  · simp only [storeSettings, requireSetting_of_isPresent htoken,
      requireSetting_of_isPresent hstudio, requireSetting_of_not_isPresent h.holds]
    rfl
  · simpa using h.at_place

theorem validate_of_present (h : ∀ e ∈ p.neededSettings, IsPresent e.2) :
    p.validate = .ok () := by
  rw [validate, storeSettings_of_present h]
  rfl

theorem validate_of_firstIn {place : Nat} {e : String × Option String}
    (h : FirstIn p.neededSettings (fun e => ¬ IsPresent e.2) place e) :
    p.validate = .error (missingSetting e.1) := by
  rw [validate, storeSettings_of_firstIn h]
  rfl

end Payload

/-! ## Requests -/

namespace RunRequest

variable {ω : Type} {r : RunRequest} {bindings : Bindings ω}

/-- A request with a step that is not bound is over before it begins. -/
theorem run_of_unbound {index : Nat} {step : Step}
    (h : FirstIn r.workflow.steps (Workflow.Unbound bindings) index step) :
    r.run bindings =
      .done (.error (.setup (.unresolvedStep r.workflow.name index step.activity))) := by
  have hcheck : r.check bindings =
      .error (.setup (.unresolvedStep r.workflow.name index step.activity)) := by
    rw [check, Workflow.check_of_unbound h]
    rfl
  rw [run, hcheck]

variable (hbound : ∀ step ∈ r.workflow.steps, ¬ Workflow.Unbound bindings step)

include hbound

/-- A request whose payload misses a setting is over before it begins. -/
theorem run_of_missing {place : Nat} {name : String} {value : Option String}
    (h : FirstIn r.payload.neededSettings (fun e => ¬ IsPresent e.2) place (name, value)) :
    r.run bindings = .done (.error (.rejected r.workflow.name (missingSetting name))) := by
  have hcheck : r.check bindings = .error (.rejected r.workflow.name (missingSetting name)) := by
    rw [check, Workflow.check_of_bound hbound, Payload.validate_of_firstIn h]
    rfl
  rw [run, hcheck]

theorem check_of_admitted (h : ∀ e ∈ r.payload.neededSettings, IsPresent e.2) :
    r.check bindings = .ok () := by
  rw [check, Workflow.check_of_bound hbound, Payload.validate_of_present h]
  rfl

/-- A request that passes both looks runs as its workflow does. -/
theorem run_of_admitted (h : ∀ e ∈ r.payload.neededSettings, IsPresent e.2) :
    r.run bindings = r.workflow.run bindings r.payload := by
  rw [run, check_of_admitted hbound h]

theorem run_ne_setup (h : ∀ e ∈ r.payload.neededSettings, IsPresent e.2) (clock : Clock)
    (engine : Engine ω) (e : SetupError) :
    ((r.run bindings).run clock engine).value ≠ .error (.setup e) := by
  rw [run_of_admitted hbound h, Workflow.run, Routine.run_map]
  exact map_ne_error (Workflow.runSteps_ne_setup _ _ hbound 0 _ _ clock engine e) _

omit hbound

/-- A request is over at once, with nothing called, unless all steps of its workflow are bound
and its payload has all settings. The first step that is not bound is reported before any
setting, and otherwise the first setting that is missing or blank. A request that is not
refused runs as its workflow does and never ends in a mistake of the setup. -/
theorem run_admission (r : RunRequest) (bindings : Bindings ω) :
    ((∃ step ∈ r.workflow.steps, Workflow.Unbound bindings step) ∨
        (∃ e ∈ r.payload.neededSettings, ¬ IsPresent e.2) →
      ∃ failure, r.run bindings = .done (.error failure)) ∧
    (∀ index step, FirstIn r.workflow.steps (Workflow.Unbound bindings) index step →
      r.run bindings =
        .done (.error (.setup (.unresolvedStep r.workflow.name index step.activity)))) ∧
    ((∀ step ∈ r.workflow.steps, ¬ Workflow.Unbound bindings step) →
      (∀ place name value,
        FirstIn r.payload.neededSettings (fun e => ¬ IsPresent e.2) place (name, value) →
        ∃ diagnosis, r.run bindings = .done (.error (.rejected r.workflow.name diagnosis)) ∧
          diagnosis.kind = .activityParamNotFound ∧
          Fields.get? diagnosis.details "param" = some (.text name)) ∧
      ((∀ e ∈ r.payload.neededSettings, IsPresent e.2) →
        r.run bindings = r.workflow.run bindings r.payload ∧
        ∀ clock engine e, ((r.run bindings).run clock engine).value ≠ .error (.setup e))) := by
  have hunbound : ∀ index step, FirstIn r.workflow.steps (Workflow.Unbound bindings) index step →
      r.run bindings =
        .done (.error (.setup (.unresolvedStep r.workflow.name index step.activity))) :=
    fun index step h => run_of_unbound h
  refine ⟨?_, hunbound, fun hbound => ⟨?_, ?_⟩⟩
  · intro h
    by_cases hstep : ∃ step ∈ r.workflow.steps, Workflow.Unbound bindings step
    · obtain ⟨index, step, hfirst⟩ := exists_firstIn hstep
      exact ⟨_, hunbound index step hfirst⟩
    · obtain ⟨place, ⟨name, value⟩, hfirst⟩ := exists_firstIn (h.resolve_left hstep)
      simp only [not_exists, not_and] at hstep
      exact ⟨_, run_of_missing hstep hfirst⟩
  · intro place name value hfirst
    refine ⟨missingSetting name, run_of_missing hbound hfirst, rfl, ?_⟩
    rw [missingSetting, Diagnosis.withDetail, Fields.get?_insert, if_pos rfl]
  · intro h
    exact ⟨run_of_admitted hbound h, run_ne_setup hbound h⟩

/-- The second step is not bound, which is reported although the credential is missing too.
With both steps bound the blank address of the server is reported, and with an address the
request runs. -/
theorem run_admission_publish :
    let steps : List Step := [⟨"extract_text", [], [], none⟩, ⟨"publish", [], [], none⟩]
    let payload (token studio : Option String) : Payload :=
      { (default : Payload) with authToken := token, config := ⟨studio, some "https://store", []⟩ }
    let extract : Binding Unit := ⟨"extract_text", .echo, .standard⟩
    let publish : Binding Unit := ⟨"publish", .echo, .standard⟩
    let refused : RunRequest := ⟨payload none (some " "), ⟨"ingest", steps, []⟩⟩
    let blank : RunRequest := ⟨payload (some "tok") (some "\u2003\n"), ⟨"ingest", steps, []⟩⟩
    let admitted : RunRequest :=
      ⟨payload (some "tok") (some " https://studio"), ⟨"ingest", steps, []⟩⟩
    refused.run ⟨"", [extract]⟩ =
        .done (.error (.setup (.unresolvedStep "ingest" 1 "publish"))) ∧
      (∃ diagnosis, blank.run ⟨"", [extract, publish]⟩ =
          .done (.error (.rejected "ingest" diagnosis)) ∧
        Fields.get? diagnosis.details "param" = some (.text "config.studio_url")) ∧
      admitted.run ⟨"", [extract, publish]⟩ =
        admitted.workflow.run ⟨"", [extract, publish]⟩ admitted.payload := by
  intro steps payload extract publish refused blank admitted
  have hbound : ∀ step ∈ steps, ¬ Workflow.Unbound ⟨"", [extract, publish]⟩ step := by
    simp only [Workflow.Unbound]
    decide
  have hstore : IsPresent (some "https://store") := ⟨_, rfl, 'h', by decide, by decide⟩
  have htoken : IsPresent (some "tok") := ⟨_, rfl, 't', by decide, by decide⟩
  have hstudio : IsPresent (some " https://studio") := ⟨_, rfl, 'h', by decide, by decide⟩
  refine ⟨?_, ?_, ?_⟩
  · have hfirst : FirstIn refused.workflow.steps (Workflow.Unbound ⟨"", [extract]⟩) 1
        ⟨"publish", [], [], none⟩ := by
      refine ⟨rfl, by rfl, ?_⟩
      intro other hlt b hb
      obtain rfl : other = 0 := by omega
      obtain rfl : (⟨"extract_text", [], [], none⟩ : Step) = b := Option.some.inj hb
      simp [Workflow.Unbound, Bindings.contains, Bindings.get?, extract]
    exact (run_admission refused ⟨"", [extract]⟩).2.1 1 _ hfirst
  · have hfirst : FirstIn blank.payload.neededSettings (fun e => ¬ IsPresent e.2) 1
        ("config.studio_url", some "\u2003\n") := by
      refine ⟨rfl, ?_, ?_⟩
      · rintro ⟨text, htext, c, hc, hblank⟩
        obtain rfl : "\u2003\n" = text := Option.some.inj htext
        have hall : "\u2003\n".toList.all Text.isBlank = true := by decide
        simp [List.all_eq_true.mp hall c hc] at hblank
      · intro other hlt b hb
        obtain rfl : other = 0 := by omega
        obtain rfl : (("auth_token", some "tok") : String × Option String) = b :=
          Option.some.inj hb
        exact not_not.mpr htoken
    obtain ⟨diagnosis, hrun, -, hparam⟩ :=
      ((run_admission blank ⟨"", [extract, publish]⟩).2.2 hbound).1 1 _ _ hfirst
    exact ⟨diagnosis, hrun, hparam⟩
  · refine (((run_admission admitted ⟨"", [extract, publish]⟩).2.2 hbound).2 ?_).1
    simp only [admitted, payload, Payload.neededSettings, List.forall_mem_cons]
    exact ⟨htoken, hstudio, hstore, by simp⟩

end RunRequest

end ActivityFlow
