import ActivityFlow.Jobs.Basic
import ActivityFlow.Proofs.Engine.History

/-!
# The calls of a job

A job makes one call of its activity for each of several parameter objects, all side by side.
However the calls take turns, each is made at most once, and once if the job succeeds; its
attempts are noted at a site of its own, and its outcome stands at the same place in the
results of the job, or is the failure that the job ends with.
-/
namespace ActivityFlow

variable {ω σ : Type}

/-- One call of a job's activity as a program. -/
def callAt (job : String) (binding : Binding ω) (index : Nat) (call : Call) :
    Program ω RunFailure Json :=
  .invoke binding.activity call binding.options fun outcome =>
    .done (outcome.mapError (.activity job index binding.name))

/-- Several calls of a job's activity on a platform, all side by side. -/
def callAll (platform : Platform ω σ) (job : String) (binding : Binding ω) (calls : List Call) :
    Routine σ (Except RunFailure (List Json)) :=
  FanOut.allOrFirstFailure (calls.mapIdx fun index call =>
    (callAt job binding index call).on platform [.branch index])

/-- The calls that a job makes for the items of its variable. -/
theorem callEach_map {ι : Type} (job : String) {binding : Binding ω} {activity : String}
    (hname : binding.name = activity) (payload : Payload) (params : ι → Fields) (items : List ι) :
    callEach job binding payload (items.map params) = callAll Engine.platform job binding
      (items.map fun item => ⟨payload, job, activity, params item⟩) := by
  subst hname
  rw [callEach, callAll]
  congr 1
  refine List.ext_getElem? fun index => ?_
  simp only [List.getElem?_mapIdx, List.getElem?_map, Option.map_map]
  rfl

/-! ## The variable of a job -/

theorem requireVar_of_absent {vars : Fields} {name : String}
    (h : ∀ value, Fields.get? vars name = some value → value = .null) :
    requireVar vars name = .error (.workflowParamNotFound name) := by
  cases hvalue : Fields.get? vars name with
  | none => simp only [requireVar, hvalue]
  | some value =>
    obtain rfl := h value hvalue
    simp only [requireVar, hvalue]

theorem requireVar_of_present {vars : Fields} {name : String} {value : Json}
    (h : Fields.get? vars name = some value) (hvalue : value ≠ .null) :
    requireVar vars name = .ok value := by
  cases value with
  | null => exact absurd rfl hvalue
  | _ => simp only [requireVar, h]

/-! ## One call -/

/-- What is noted of the call at an index: the attempts of an invocation, with whose outcome the
call ends. A failure is reported with the index. -/
def CallLog (job activity : String) (index : Nat) (call : Call) :
    LogSpec Event (Except RunFailure Json) := fun entries result =>
  ∃ outcome, InvocationLog [.branch index] call 0 entries outcome ∧
    ∀ r, result = some r → ∃ o, outcome = some o ∧ r = o.mapError (.activity job index activity)

theorem inStep_callAt {R : Engine ω → Ledger ω → Prop} (hR : Engine.Tracks R) (limit : Nat)
    (job : String) (binding : Binding ω) (index : Nat) (call : Call) :
    Routine.InStep R Ledger.log ((callAt job binding index call).on Engine.platform [.branch index])
      ((callAt job binding index call).on (Ledger.platform limit) [.branch index])
      (CallLog job binding.name index call) := by
  have hinvoke := Engine.inStep_attempts hR [.branch index] (binding.activity call) call
    binding.options 0 (words32 - 1) (by decide)
  refine (hinvoke.bind (U := fun outcome entries result => entries = [] ∧ ∀ r, result = some r →
    r = outcome.mapError (.activity job index binding.name)) ?_).mono ?_
  · intro outcome
    exact .done ⟨rfl, by simp⟩ ⟨rfl, by simp⟩
  · intro entries result hthen
    cases hthen with
    | first h => exact ⟨none, h, by simp⟩
    | second h hdone =>
      obtain ⟨rfl, hresult⟩ := hdone
      rw [List.append_nil]
      exact ⟨_, h, fun r hr => ⟨_, rfl, hresult r hr⟩⟩

theorem CallLog.below {job activity : String} {index : Nat} {call : Call} {entries : List Event}
    {result : Option (Except RunFailure Json)}
    (h : CallLog job activity index call entries result) :
    ∀ e ∈ entries, e.site = [.branch index] := by
  obtain ⟨outcome, hinvocation, -⟩ := h
  exact hinvocation.orderly.1

/-! ## How often a call is made -/

/-- The call whose first attempt an event is. -/
def Event.firstCall? : Event → Option Call
  | began _ call attempt => if attempt = 1 then some call else none
  | finished _ _ _ _ | looked _ | took _ => none

/-- The calls that were made, in the order of their first attempts. -/
def callsMade (log : List Event) : List Call := log.filterMap Event.firstCall?

/-- Only the first attempt of an invocation counts. -/
theorem callsMade_beginnings (site : Site) (call : Call) (count : Nat) :
    callsMade (beginnings site call 0 count) = if count = 0 then [] else [call] := by
  cases count with
  | zero => rfl
  | succ count =>
    have hlater : callsMade (beginnings site call 1 count) = [] := by
      rw [callsMade, List.filterMap_eq_nil_iff]
      intro e he
      obtain ⟨attempt, hattempt, rfl⟩ := List.mem_map.mp he
      have hne : attempt ≠ 1 := by
        have := (List.mem_range'_1.mp hattempt).1
        omega
      simp [Event.firstCall?, hne]
    rw [beginnings_succ, callsMade, List.filterMap_cons, ← callsMade, hlater]
    rfl

theorem callsMade_of_invocationLog {site : Site} {call : Call} {entries : List Event}
    {outcome : Option Outcome} (h : InvocationLog site call 0 entries outcome) :
    (callsMade entries).Sublist [call] ∧ (outcome.isSome → callsMade entries = [call]) := by
  cases h with
  | underway count =>
    rw [callsMade_beginnings]
    split_ifs <;> simp
  | finished count o h =>
    have hmade : callsMade (beginnings site call 0 (count + 1) ++
        [.finished site call (.ended call.activity (0 + count) o) o]) = [call] := by
      rw [callsMade, List.filterMap_append, ← callsMade, callsMade_beginnings]
      simp [Event.firstCall?]
    exact ⟨hmade ▸ List.Sublist.refl _, fun _ => hmade⟩
  | uncounted =>
    have hmade : callsMade (beginnings site call 0 (words32 - 1 - 0)) = [call] := by
      rw [callsMade_beginnings, if_neg (by decide)]
    exact ⟨hmade ▸ List.Sublist.refl _, fun _ => hmade⟩

/-! ## All calls -/

/-- A run of several calls side by side, whose outcomes are known as far as the calls ended.
All attempts are those of the calls. No call is made twice, and all are made if the run succeeds.
The results are the outcomes in the order of the calls, and a failure is that of one call, with
the job, the activity and the place of the call. -/
structure EachCalled (job activity : String) (calls : List Call) (log : List Event)
    (outcomes : Nat → Option Outcome) (result : Except RunFailure (List Json)) : Prop where
  site : ∀ e ∈ log, ∃ index < calls.length, e.site = [.branch index]
  invoked : ∀ index call, calls[index]? = some call →
    InvocationLog [.branch index] call 0 (branchLog [] index log) (outcomes index)
  made : (callsMade log).Subperm calls
  succeeded : ∀ outputs, result = .ok outputs → (callsMade log).Perm calls ∧
    outputs.length = calls.length ∧
    ∀ (index : Nat) output, outputs[index]? = some output → outcomes index = some (.ok output)
  failed : ∀ failure, result = .error failure → ∃ index < calls.length, ∃ cause,
    outcomes index = some (.error cause) ∧ failure = .activity job index activity cause

section

variable {calls : List Call} {log : List Event}

/-- The calls made are those made at the sites of the calls. -/
theorem callsMade_perm (hsite : ∀ e ∈ log, ∃ index < calls.length, [.branch index] <:+ e.site) :
    (callsMade log).Perm ((List.range calls.length).flatMap fun index =>
      callsMade (branchLog [] index log)) := by
  have hunique : ∀ (e : Event) (i j : Nat), [.branch i] <:+ e.site → [.branch j] <:+ e.site →
      i = j := by
    intro e i j hi hj
    simpa using Event.way_eq_of_suffix hi hj
  have hparts := (perm_flatMap_filter hsite hunique).filterMap Event.firstCall?
  rwa [List.filterMap_flatMap] at hparts

variable {outcomes : Nat → Option Outcome}
variable (hsite : ∀ e ∈ log, ∃ index < calls.length, [.branch index] <:+ e.site)
variable (hinvoked : ∀ index call, calls[index]? = some call →
  InvocationLog [.branch index] call 0 (branchLog [] index log) (outcomes index))
include hsite hinvoked

theorem callsMade_subperm : (callsMade log).Subperm calls := by
  have hsublist : ((List.range calls.length).flatMap fun index =>
      callsMade (branchLog [] index log)).Sublist calls :=
    flatMap_range_sublist fun index call hcall =>
      (callsMade_of_invocationLog (hinvoked index call hcall)).1
  exact (callsMade_perm hsite).subperm.trans hsublist.subperm

theorem callsMade_perm_of_ended (hended : ∀ index < calls.length, (outcomes index).isSome) :
    (callsMade log).Perm calls := by
  have hall : ((List.range calls.length).flatMap fun index =>
      callsMade (branchLog [] index log)) = calls :=
    flatMap_range_eq fun index call hcall =>
      (callsMade_of_invocationLog (hinvoked index call hcall)).2
        (hended index (List.getElem?_eq_some_iff.mp hcall).1)
  exact hall ▸ callsMade_perm hsite

variable {job activity : String} {results : Nat → Option (Except RunFailure Json)}
variable {result : Except RunFailure (List Json)}

/-- What a fan-out of calls ends with is made of their outcomes. -/
theorem EachCalled.of_results
    (hreported : ∀ index < calls.length, ∀ r, results index = some r →
      ∃ o, outcomes index = some o ∧ r = o.mapError (.activity job index activity))
    (hresult : FanOut.AllOrFirst calls.length results result) :
    EachCalled job activity calls log outcomes result := by
  refine ⟨?_, hinvoked, callsMade_subperm hsite hinvoked, ?_, ?_⟩
  · intro e he
    obtain ⟨index, hindex, hbelow⟩ := hsite e he
    refine ⟨index, hindex, (hinvoked index _ (List.getElem?_eq_getElem hindex)).orderly.1 e ?_⟩
    exact List.mem_filter.mpr ⟨he, by simpa using hbelow⟩
  · rintro outputs rfl
    obtain ⟨hlength, houtput⟩ := hresult
    have hended : ∀ (index : Nat) output, outputs[index]? = some output →
        outcomes index = some (.ok output) := by
      intro index output hget
      have hindex : index < calls.length := hlength ▸ (List.getElem?_eq_some_iff.mp hget).1
      obtain ⟨o, ho, hok⟩ := hreported index hindex _ (houtput index output hget)
      cases o with
      | error cause => cases hok
      | ok value => rw [ho, Except.ok.inj hok]
    refine ⟨callsMade_perm_of_ended hsite hinvoked ?_, hlength, hended⟩
    intro index hindex
    rw [hended index _ (List.getElem?_eq_getElem (hlength ▸ hindex))]
    rfl
  · rintro failure rfl
    obtain ⟨index, hindex, hfailed⟩ := hresult
    obtain ⟨o, ho, herror⟩ := hreported index hindex _ hfailed
    cases o with
    | ok value => cases herror
    | error cause => exact ⟨index, hindex, cause, ho, Except.error.inj herror⟩

end

/-- From any engine, calls side by side are noted on a ledger of the same world: they take the
same time, leave the same world and end with the same value, and each is made as described. -/
theorem run_callAll (job : String) {binding : Binding ω} {activity : String}
    (hname : binding.name = activity) (calls : List Call) (limit : Nat) (clock : Clock)
    (engine : Engine ω) :
    let finish := (callAll Engine.platform job binding calls).run clock engine
    let noted := (callAll (Ledger.platform limit) job binding calls).run clock
      (Ledger.start engine.world)
    finish.value = noted.value ∧ finish.clock = noted.clock ∧
      finish.state.world = noted.state.world ∧
      ∃ outcomes, EachCalled job activity calls noted.state.log outcomes finish.value := by
  subst hname
  intro finish noted
  obtain ⟨hvalue, hclock, hworld, results, hsite, hspec, hresult⟩ :=
    FanOut.run_each calls (inStep_callAt Engine.tracks_sameWorld limit job binding)
      (fun index call entries result h e he => (h.below e he) ▸ List.suffix_rfl) clock
      (s := engine) (t := Ledger.start engine.world) rfl rfl
  refine ⟨hvalue, hclock, hworld, ?_⟩
  have houtcome : ∀ index, ∃ outcome, ∀ call, calls[index]? = some call →
      InvocationLog [.branch index] call 0 (branchLog [] index noted.state.log) outcome ∧
        ∀ r, results index = some r → ∃ o, outcome = some o ∧
          r = o.mapError (.activity job index binding.name) := by
    intro index
    cases hcall : calls[index]? with
    | none => exact ⟨none, by simp⟩
    | some call =>
      obtain ⟨outcome, hlog⟩ := hspec index call hcall
      exact ⟨outcome, by rintro _ ⟨⟩; exact hlog⟩
  choose outcomes hcalls using houtcome
  exact ⟨outcomes, .of_results hsite (fun index call hcall => (hcalls index call hcall).1)
    (fun index hindex => (hcalls index _ (List.getElem?_eq_getElem hindex)).2) hresult⟩

end ActivityFlow
