import ActivityFlow.Proofs.Jobs.Calls
import ActivityFlow.Proofs.Json.Fields
import ActivityFlow.Proofs.Router.Selection
import ActivityFlow.Proofs.Workflow.Admission
import ActivityFlow.Proofs.Workflow.Succession

/-!
# Calling what a router picks

A router is checked against every activity that its routes could pick for any variables, whether
or not an attribute leads to the route. The check reports the first one that is not bound, and a
router that passes it never meets a name that is not bound: it makes one call, of the activity
that it picks, and ends as this call does.
-/
namespace ActivityFlow

theorem Target.mem_names_iff {t : Target} {name : String} :
    name ∈ t.names ↔ ∃ vars, t.choose vars = name := by
  constructor
  · intro h
    cases t with
    | fixed activity => exact ⟨[], (List.mem_singleton.mp h).symm⟩
    | switch var whenSet otherwise =>
      rcases List.mem_cons.mp h with rfl | h
      · exact ⟨[(var, .bool true)], by simp [choose, Fields.get?_cons, Json.isTruthy]⟩
      · exact ⟨[], (List.mem_singleton.mp h).symm⟩
  · rintro ⟨vars, rfl⟩
    exact t.choose_mem_names vars

namespace Router

variable {ω : Type}

/-! ## The check -/

/-- The names that routes can pick, in the order of the routes and with repetitions. -/
def pickable (routes : List Route) : List String :=
  routes.flatMap fun route => route.destination.target.names

theorem mem_pickable_iff {routes : List Route} {name : String} : name ∈ pickable routes ↔
    ∃ route ∈ routes, ∃ vars, route.destination.target.choose vars = name := by
  simp only [pickable, List.mem_flatMap, Target.mem_names_iff]

/-- Leaving repetitions out does not change which name is found first. -/
theorem find?_addNames (p : String → Bool) (known names : List String) :
    (addNames known names).find? p = (known ++ names).find? p := by
  induction names generalizing known with
  | nil => rw [addNames, List.foldl_nil, List.append_nil]
  | cons first rest ih =>
    rw [addNames, List.foldl_cons, ← addNames, ih]
    by_cases hknown : first ∈ known
    · rw [if_pos (by simpa using hknown), List.find?_append, List.find?_append, List.find?_cons]
      -- A known name that is looked for is found in front of its repetition.
      cases hfirst : p first with
      | false => rfl
      | true =>
        have hfound : (known.find? p).isSome := List.find?_isSome.mpr ⟨first, hknown, hfirst⟩
        obtain ⟨name, hname⟩ := Option.isSome_iff_exists.mp hfound
        rw [hname, Option.some_or, Option.some_or]
    · rw [if_neg (by simpa using hknown), List.append_assoc, List.singleton_append]

section Built

variable {name : String} {routes : List Route} {r : Router} {bindings : Bindings ω}

theorem check_eq (h : build name routes = .ok r) (bindings : Bindings ω) :
    r.check bindings = ((pickable routes).find? fun name => !bindings.contains name).elim (.ok ())
      fun name => .error (.unknownActivity name) := by
  obtain ⟨-, rfl, -⟩ := build_eq_ok_iff.mp h
  rw [check, activityNames, find?_addNames, List.nil_append, ← pickable]
  cases (pickable r.routes).find? fun name => !bindings.contains name <;> rfl

/-- A router passes its check exactly if every activity that one of its routes can pick is
bound. -/
theorem check_eq_ok_iff (h : build name routes = .ok r) : r.check bindings = .ok () ↔
    ∀ route ∈ routes, ∀ vars,
      bindings.contains (route.destination.target.choose vars) = true := by
  have hall : (∀ name ∈ pickable routes, bindings.contains name = true) ↔
      ∀ route ∈ routes, ∀ vars,
        bindings.contains (route.destination.target.choose vars) = true := by
    simp only [mem_pickable_iff]
    exact ⟨fun h route hroute vars => h _ ⟨route, hroute, vars, rfl⟩,
      by rintro h _ ⟨route, hroute, vars, rfl⟩; exact h route hroute vars⟩
  rw [← hall, check_eq h]
  cases hfind : (pickable routes).find? fun name => !bindings.contains name with
  | none => simpa [List.find?_eq_none] using hfind
  | some name =>
    have hmissing : bindings.contains name = false := by simpa using List.find?_some hfind
    simp only [Option.elim_some, reduceCtorEq, false_iff]
    intro hbound
    rw [hbound name (List.mem_of_find?_eq_some hfind)] at hmissing
    cases hmissing

/-- A router that does not pass its check is told the first activity that is not bound. -/
theorem check_eq_error {place : Nat} {missing : String} (h : build name routes = .ok r)
    (hfirst : FirstIn (pickable routes) (fun name => bindings.contains name = false) place
      missing) :
    r.check bindings = .error (.unknownActivity missing) := by
  have hfind : ((pickable routes).find? fun name => !bindings.contains name) = some missing :=
    find?_eq_some_of_firstIn (by simpa using hfirst)
  rw [check_eq h, hfind, Option.elim_some]

end Built

/-! ## The call -/

/-- The call of what was picked: on behalf of a workflow, with a payload as it is, and with the
parameters of the route where it has any and those of the caller elsewhere. -/
structure IsCall (picked : Selection) (workflow : String) (payload : Payload) (params : Fields)
    (call : Call) : Prop where
  payload_eq : call.payload = payload
  workflow_eq : call.workflow = workflow
  activity_eq : call.activity = picked.activity
  get?_params : ∀ key, Fields.get? call.params key =
    (Fields.get? picked.params key).or (Fields.get? params key)

/-- A run ends as a call does: at the same time and in the same state, with the result of the
call, or with its failure, which is reported with the workflow, the step and the activity. -/
structure EndsAsCall (workflow : String) (step : Nat) (activity : String)
    (called : Finish (Engine ω) Outcome) (finish : Finish (Engine ω) (Except RunFailure Json)) :
    Prop where
  clock_eq : finish.clock = called.clock
  state_eq : finish.state = called.state
  succeeded : ∀ output, called.value = .ok output → finish.value = .ok output
  failed : ∀ failure, called.value = .error failure →
    finish.value = .error (.activity workflow step activity failure)

/-- A run that ends as a call does is no mistake of the setup. -/
theorem EndsAsCall.ne_setup {workflow : String} {step : Nat} {activity : String}
    {called : Finish (Engine ω) Outcome} {finish : Finish (Engine ω) (Except RunFailure Json)}
    (h : EndsAsCall workflow step activity called finish) (e : SetupError) :
    finish.value ≠ .error (.setup e) := by
  intro he
  cases hvalue : called.value with
  | ok output =>
    rw [h.succeeded output hvalue] at he
    cases he
  | error failure =>
    rw [h.failed failure hvalue] at he
    cases he

/-- One call of an activity, run on the engine. -/
theorem endsAsCall_callAt (workflow : String) (binding : Binding ω) (step : Nat) (call : Call)
    (clock : Clock) (engine : Engine ω) (site : Site) :
    EndsAsCall workflow step binding.name
      ((Engine.invoke binding.activity call binding.options).run clock engine)
      (((callAt workflow binding step call).on Engine.platform site).run clock engine) := by
  have hrun : ((callAt workflow binding step call).on Engine.platform site).run clock engine =
      let called := (Engine.invoke binding.activity call binding.options).run clock engine
      ⟨called.value.mapError (.activity workflow step binding.name), called.clock, called.state⟩ :=
    Routine.run_map _ _ clock engine
  rw [hrun]
  refine ⟨rfl, rfl, ?_, ?_⟩
  · intro output hvalue
    simp only [hvalue, Except.mapError]
  · intro failure hvalue
    simp only [hvalue, Except.mapError]

/-- One call of an activity is noted as one call, and ends with the same value. -/
theorem run_callAt (workflow : String) (binding : Binding ω) (step : Nat) (call : Call)
    (limit : Nat) (clock : Clock) (engine : Engine ω) :
    let program := callAt workflow binding step call
    let finish := (program.on Engine.platform [.branch step]).run clock engine
    let noted := (program.on (Ledger.platform limit) [.branch step]).run clock
      (Ledger.start engine.world)
    finish.value = noted.value ∧ finish.clock = noted.clock ∧
      finish.state.world = noted.state.world ∧ callsMade noted.state.log = [call] := by
  intro program finish noted
  obtain ⟨hvalue, hclock, hworld, entries, hlog, outcome, hinvocation, hended⟩ :=
    (inStep_callAt Engine.tracks_sameWorld limit workflow binding step call).run clock
      (s := engine) (t := Ledger.start engine.world) rfl
  obtain ⟨o, rfl, -⟩ := hended _ rfl
  have hentries : noted.state.log = entries := hlog
  rw [hentries]
  exact ⟨hvalue, hclock, hworld, (callsMade_of_invocationLog hinvocation).2 rfl⟩

/-- A router whose pick is bound makes one call. -/
theorem dispatch_eq_callAt (r : Router) {bindings : Bindings ω} {payload : Payload}
    {label : Option String} {binding : Binding ω}
    (h : bindings.get? (r.select label payload.vars).activity = some binding) (step : Nat)
    (params : Fields) (site : Site) :
    r.dispatch bindings payload step label params =
      (callAt r.name binding step ⟨payload, r.name, binding.name,
        Fields.insertAll params (r.select label payload.vars).params⟩).on Engine.platform site := by
  have hname : binding.name = (r.select label payload.vars).activity := Bindings.name_of_get? h
  simp only [dispatch, Bindings.require_eq_ok h]
  rw [← hname]
  rfl

/-- A router that passes its check makes one call for any payload, step, attribute and
parameters. It is the call of the activity that is picked, with the name of the router and the
payload as it is; parameters of the route win over those of the caller. The result of the call is
given back as it is, and its failure with the step. A router passes the check exactly if all
activities are bound that any of its routes can pick for any variables; otherwise it is told the
first one that is not. -/
theorem dispatch_calls_picked {name : String} {routes : List Route} {r : Router}
    (hbuild : build name routes = .ok r)
    (hdistinct : ∀ route ∈ routes, (route.destination.params.map Prod.fst).Nodup)
    (bindings : Bindings ω) :
    (r.check bindings = .ok () → ∀ payload step label params,
      let picked := r.select label payload.vars
      ∃ binding call, bindings.get? picked.activity = some binding ∧
        IsCall picked name payload params call ∧
        let program := callAt name binding step call
        r.dispatch bindings payload step label params =
          program.on Engine.platform [.branch step] ∧
        ∀ (limit : Nat) (clock : Clock) (engine : Engine ω),
          let called := (Engine.invoke binding.activity call binding.options).run clock engine
          let finish := (r.dispatch bindings payload step label params).run clock engine
          let noted := (program.on (Ledger.platform limit) [.branch step]).run clock
            (Ledger.start engine.world)
          EndsAsCall name step picked.activity called finish ∧
            (∀ e, finish.value ≠ .error (.setup e)) ∧
            finish.value = noted.value ∧ finish.clock = noted.clock ∧
            finish.state.world = noted.state.world ∧ callsMade noted.state.log = [call]) ∧
    (r.check bindings = .ok () ↔ ∀ route ∈ routes, ∀ vars,
      bindings.contains (route.destination.target.choose vars) = true) ∧
    ((∃ route ∈ routes, ∃ vars,
        bindings.contains (route.destination.target.choose vars) = false) →
      ∃ place missing,
        FirstIn (pickable routes) (fun name => bindings.contains name = false) place missing ∧
          r.check bindings = .error (.unknownActivity missing)) := by
  refine ⟨?_, check_eq_ok_iff hbuild, ?_⟩
  · intro hcheck payload step label params picked
    obtain ⟨place, route, -, hroute, hselect⟩ := select_eq hbuild label payload.vars
    have hmem : route ∈ routes := List.mem_of_getElem? hroute
    have hpicked : picked = arrive payload.vars place route.destination := hselect
    have hcontains : bindings.contains picked.activity = true := by
      rw [hpicked]
      exact (check_eq_ok_iff hbuild).mp hcheck route hmem payload.vars
    obtain ⟨binding, hbinding⟩ := Bindings.exists_get?_of_contains hcontains
    obtain ⟨rfl, rfl, -⟩ := build_eq_ok_iff.mp hbuild
    have hname : binding.name = picked.activity := Bindings.name_of_get? hbinding
    have heq := dispatch_eq_callAt r hbinding step params [.branch step]
    refine ⟨binding, _, hbinding, ⟨rfl, rfl, hname, ?_⟩, heq, ?_⟩
    · have hkeys : (picked.params.map Prod.fst).Nodup := by
        rw [hpicked]
        exact hdistinct route hmem
      exact Fields.get?_insertAll params picked.params hkeys
    · intro limit clock engine called finish noted
      have hends : EndsAsCall r.name step picked.activity called finish := by
        simp only [finish, heq, ← hname]
        exact endsAsCall_callAt r.name binding step _ clock engine _
      refine ⟨hends, hends.ne_setup, ?_⟩
      simp only [finish, heq]
      exact run_callAt r.name binding step _ limit clock engine
  · rintro ⟨route, hroute, vars, hunbound⟩
    obtain ⟨place, missing, hfirst⟩ :=
      exists_firstIn (P := fun name => bindings.contains name = false)
        ⟨_, mem_pickable_iff.mpr ⟨route, hroute, vars, rfl⟩, hunbound⟩
    exact ⟨place, missing, hfirst, check_eq_error hbuild hfirst⟩

/-- A route that picks one of two activities, called with a parameter that it has as well and
another one. If only the activity is bound that the variables lead to, the router does not pass
its check. -/
theorem dispatch_calls_picked_switch :
    let routes : List Route := [
      ⟨.pattern (.char (.single 'p')),
        ⟨.switch "use_vision" "look" "read", [("ocr", .bool false)]⟩⟩,
      ⟨.any, ⟨.fixed "extract", []⟩⟩]
    let bound (names : List String) : Bindings Unit :=
      ⟨"default", names.map fun name => ⟨name, .echo, .standard⟩⟩
    let engine : Engine Unit := .start 256 ()
    let payload : Payload := { (default : Payload) with vars := [("use_vision", .bool true)] }
    let params : Fields := [("ocr", .bool true), ("page", .int 3)]
    ∃ r, build "media" routes = .ok r ∧
      (∀ route ∈ routes, (route.destination.params.map Prod.fst).Nodup) ∧
      let bindings := bound ["extract", "look", "read"]
      let finish := (r.dispatch bindings payload 4 (some "pdf") params).run ⟨0, 0⟩ engine
      r.check bindings = .ok () ∧
      finish.value = .ok (.object [("ocr", .bool false), ("page", .int 3)]) ∧
      (∃ (binding : Binding Unit) (call : Call),
        IsCall ⟨0, "look", [("ocr", .bool false)]⟩ "media" payload params call ∧
        EndsAsCall "media" 4 "look"
          ((Engine.invoke binding.activity call binding.options).run ⟨0, 0⟩ engine) finish) ∧
      ∃ place, FirstIn (pickable routes) (fun name => (bound ["look"]).contains name = false) place
          "read" ∧
        r.check (bound ["look"]) = .error (.unknownActivity "read") := by
  intro routes bound engine payload params
  let r : Router := ⟨"media", routes, by simp [routes]⟩
  have hbuild : build "media" routes = .ok r := rfl
  have hdistinct : ∀ route ∈ routes, (route.destination.params.map Prod.fst).Nodup := by decide
  have hcheck : r.check (bound ["extract", "look", "read"]) = .ok () := by decide
  obtain ⟨hcalls, -, -⟩ :=
    dispatch_calls_picked hbuild hdistinct (bound ["extract", "look", "read"])
  obtain ⟨binding, call, -, hcall, -, hruns⟩ := hcalls hcheck payload 4 (some "pdf") params
  obtain ⟨-, -, hunbound⟩ := dispatch_calls_picked hbuild hdistinct (bound ["look"])
  obtain ⟨place, missing, hfirst, herror⟩ := hunbound ⟨_, List.mem_cons_self .., [], by decide⟩
  have hread : r.check (bound ["look"]) = .error (.unknownActivity "read") := by decide
  obtain rfl : "read" = missing := by
    rw [hread] at herror
    simpa using herror
  exact ⟨r, hbuild, hdistinct, hcheck, by decide +kernel,
    ⟨binding, call, hcall, (hruns 256 ⟨0, 0⟩ engine).1⟩, place, hfirst, hread⟩

end Router

end ActivityFlow
