import ActivityFlow.Preview
import ActivityFlow.Proofs.Bindings.Assignment
import ActivityFlow.Proofs.Workflow.Admission
import ActivityFlow.Proofs.Workflow.Composition

/-!
# Rehearsals

In a rehearsal every activity answers with the parameters of its call, and it answers at once.
So nothing can go wrong once the groups make sense: the catalog has the name of every step, the
bindings have every name of the catalog, and every step succeeds in its first attempt, however
little time it has. What the steps are given depends on the variables and on nothing else of the
payload.
-/
namespace ActivityFlow

variable {ω σ : Type}

/-! ## Catalogs of echoes -/

namespace Catalog

variable {catalog : Catalog ω}

theorem names_of_register {name : String} {activity : Activity ω} {grown : Catalog ω}
    (h : catalog.register name activity = .ok grown) : grown.names = catalog.names ++ [name] := by
  rw [register] at h
  split_ifs at h
  obtain rfl := Except.ok.inj h
  simp [names]

/-- A catalog of activities that answer with the parameters of the call. It has each of the given
names once, and no other. -/
structure Echoing (catalog : Catalog ω) (names : List String) : Prop where
  nodup : catalog.names.Nodup
  mem_iff : ∀ name, name ∈ catalog.names ↔ name ∈ names
  echo : ∀ name activity, catalog.get? name = some activity → activity = Activity.echo

theorem echoing_empty : (empty : Catalog ω).Echoing [] where
  nodup := List.nodup_nil
  mem_iff _ := Iff.rfl
  echo _ _ h := by cases h

theorem Echoing.register {seen : List String} (h : catalog.Echoing seen) {name : String}
    {grown : Catalog ω} (hreg : catalog.register name Activity.echo = .ok grown) :
    grown.Echoing (seen ++ [name]) where
  nodup := names_nodup_of_register h.nodup hreg
  mem_iff other := by
    rw [names_of_register hreg, List.mem_append, List.mem_append, h.mem_iff]
  echo other activity hget := by
    rw [Catalog.register] at hreg
    split_ifs at hreg
    obtain rfl := Except.ok.inj hreg
    rw [get?, List.lookup_append, Option.or_eq_some_iff] at hget
    rcases hget with hget | ⟨-, hget⟩
    · exact h.echo other activity hget
    · rw [List.lookup_cons] at hget
      split at hget
      · exact (Option.some.inj hget).symm
      · cases hget

/-- One more name can always be given to a catalog of echoes, whether it has it or not. -/
theorem Echoing.exists_next {seen : List String} (h : catalog.Echoing seen) (name : String) :
    ∃ grown, (if catalog.contains name then .ok catalog
        else catalog.register name Activity.echo : Except SetupError (Catalog ω)) = .ok grown ∧
      grown.Echoing (seen ++ [name]) := by
  by_cases hmem : catalog.contains name = true
  · have hseen : name ∈ seen := (h.mem_iff name).mp (contains_iff_mem_names.mp hmem)
    refine ⟨catalog, if_pos hmem, h.nodup, fun other => ?_, h.echo⟩
    rw [h.mem_iff, List.mem_append, List.mem_singleton]
    exact ⟨.inl, fun hother => hother.elim id fun heq => heq ▸ hseen⟩
  · have hreg : catalog.register name Activity.echo =
        .ok ⟨catalog.entries ++ [(name, Activity.echo)]⟩ := if_neg hmem
    exact ⟨_, (if_neg hmem).trans hreg, h.register hreg⟩

theorem exists_echoes (names : List String) :
    ∃ catalog, echoes names = .ok catalog ∧ catalog.Echoing names := by
  have hgrow : ∀ (seen : List String) (start : Catalog Unit), start.Echoing seen →
      ∃ catalog, names.foldlM (fun catalog name =>
          if catalog.contains name then .ok catalog else catalog.register name Activity.echo)
          start = (.ok catalog : Except SetupError (Catalog Unit)) ∧
        catalog.Echoing (seen ++ names) := by
    induction names with
    | nil => exact fun seen start hstart => ⟨start, rfl, by simpa using hstart⟩
    | cons first rest ih =>
      intro seen start hstart
      obtain ⟨grown, hnext, hgrown⟩ := hstart.exists_next first
      obtain ⟨catalog, hfold, hcatalog⟩ := ih (seen ++ [first]) grown hgrown
      refine ⟨catalog, ?_, by simpa using hcatalog⟩
      rw [List.foldlM_cons, hnext]
      exact hfold
  exact hgrow [] empty echoing_empty

end Catalog

namespace Bindings

/-- The activity of a name is bound, and it answers with the parameters of its call. -/
def EchoesAt (bindings : Bindings ω) (name : String) : Prop :=
  ∃ binding, bindings.get? name = some binding ∧ binding.activity = Activity.echo

end Bindings

namespace Workflow

/-- Groups that make sense give a workflow bindings for any names. Just these names are bound, and
each is answered with the parameters of its call. -/
theorem exists_echoBindings (w : Workflow) (names : List String) {groups : Groups}
    (hsound : groups.Sound) :
    ∃ bindings, w.echoBindings names groups = .ok bindings ∧
      (∀ name, bindings.contains name = true ↔ name ∈ names) ∧
      ∀ name ∈ names, bindings.EchoesAt name := by
  obtain ⟨catalog, hcatalog, hechoing⟩ := Catalog.exists_echoes names
  obtain ⟨bindings, hbindings, horder, hall⟩ :=
    Bindings.exists_ofGroups hechoing.nodup hsound w.name
  have hlisted := (Groups.validate_eq_ok_iff.mp hsound.valid).2
  have hnames : ∀ name, name ∈ bindings.names ↔ name ∈ names := fun name => by
    rw [horder, (Bindings.orderedNames_perm hechoing.nodup hlisted).mem_iff, hechoing.mem_iff]
  refine ⟨bindings, ?_, fun name => ?_, fun name hname => ?_⟩
  · rw [echoBindings, hcatalog]
    exact hbindings
  · rw [← hnames, Bindings.contains_iff_mem_names]
  · obtain ⟨binding, hmem, -, hget⟩ := Bindings.exists_get?_of_mem ((hnames name).mpr hname)
    exact ⟨binding, hget, hechoing.echo _ _ (hall binding hmem).1⟩

end Workflow

/-! ## Invocations of echoes -/

/-- Invoking an activity that answers with its parameters takes no time on a platform, and leaves
the given note of the call. -/
def Platform.Echoes (platform : Platform ω σ) (note : Site → Call → σ → σ) : Prop :=
  ∀ site call options clock state, ∃ turn,
    (platform.invoke site Activity.echo call options).run clock state =
      ⟨.ok (.object call.params), ⟨clock.now, turn⟩, note site call state⟩

/-- The history of an invocation whose first attempt succeeded. -/
def AttemptRecord.once (activity : String) : AttemptRecord :=
  ⟨activity, 1, [.pending, .attempting, .succeeded]⟩

namespace Engine

/-- An activity that answers at once is attempted once, even if it has no time. -/
theorem echoes_platform : Platform.Echoes (platform (ω := ω)) fun _ call =>
    recordHistory (.once call.activity) := by
  intro site call options clock engine
  exact ⟨clock.turn + 2, run_invoke_of_done rfl (by simp) clock engine⟩

end Engine

namespace Ledger

/-- The notes of an invocation whose first attempt succeeded with the parameters of the call. -/
def noteOnce (site : Site) (call : Call) (ledger : Ledger ω) : Ledger ω :=
  (ledger.note (.began site call 1)).note
    (.finished site call (.ended call.activity 0 (.ok (.object call.params)))
      (.ok (.object call.params)))

theorem echoes_platform (limit : Nat) : (platform (ω := ω) limit).Echoes noteOnce :=
  fun _ _ _ clock _ => ⟨clock.turn + 2, rfl⟩

end Ledger

/-! ## The steps of a rehearsal -/

namespace Step

/-- The variables after a step that is answered with its parameters. -/
def rehearse (step : Step) (vars : Fields) : Fields := step.store vars (.object (step.resolve vars))

end Step

namespace Workflow

/-- The variables with which the step of an index is rehearsed. -/
def rehearsedVars (w : Workflow) (payload : Payload) (index : Nat) : Fields :=
  (w.steps.take index).foldl (fun vars step => step.rehearse vars) (w.startVars payload)

def rehearsedParams (w : Workflow) (payload : Payload) (index : Nat) (step : Step) : Fields :=
  step.resolve (w.rehearsedVars payload index)

def rehearsedCall (w : Workflow) (payload : Payload) (index : Nat) (step : Step) : Call :=
  ⟨payload.withVars (w.rehearsedVars payload index), w.name, step.activity,
    w.rehearsedParams payload index step⟩

def rehearsedCalls (workflow : String) (payload : Payload) (vars : Fields) : List Step → List Call
  | [] => []
  | step :: rest =>
    ⟨payload.withVars vars, workflow, step.activity, step.resolve vars⟩ ::
      rehearsedCalls workflow payload (step.rehearse vars) rest

/-- What the calls of successive steps leave on a platform. -/
def noteCalls (note : Site → Call → σ → σ) (site : Site) : List Call → σ → σ
  | [], state => state
  | call :: rest, state => noteCalls note (.next :: site) rest (note site call state)

def echoRecord (call : Call) (index : Nat) : StepRecord :=
  ⟨index, call.activity, call.params, .object call.params⟩

theorem rehearsedCalls_eq_mapIdx (workflow : String) (payload : Payload) (vars : Fields)
    (steps : List Step) :
    rehearsedCalls workflow payload vars steps = steps.mapIdx fun index step =>
      let vars := (steps.take index).foldl (fun vars step => step.rehearse vars) vars
      ⟨payload.withVars vars, workflow, step.activity, step.resolve vars⟩ := by
  induction steps generalizing vars with
  | nil => rfl
  | cons step rest ih =>
    rw [rehearsedCalls, ih, List.mapIdx_cons]
    rfl

/-- On a platform where echoes take no time the steps of a rehearsal succeed one after the
other, each with a record of its call. -/
theorem run_programFrom_of_echoes {platform : Platform ω σ} {note : Site → Call → σ → σ}
    (hplatform : platform.Echoes note) {bindings : Bindings ω} {steps : List Step}
    (hsteps : ∀ step ∈ steps, bindings.EchoesAt step.activity) (workflow : String)
    (payload : Payload) (vars : Fields) (records : List StepRecord) (site : Site) (clock : Clock)
    (state : σ) :
    ∃ turn, ((programFrom bindings workflow payload vars records steps).on platform site).run clock
        state =
      let made := records ++ (rehearsedCalls workflow payload vars steps).mapIdx fun index call =>
        echoRecord call (records.length + index)
      ⟨.ok ⟨workflow, StepRecord.lastOutput made,
          steps.foldl (fun vars step => step.rehearse vars) vars, made⟩,
        ⟨clock.now, turn⟩,
        noteCalls note site (rehearsedCalls workflow payload vars steps) state⟩ := by
  induction steps generalizing vars records site clock state with
  | nil =>
    refine ⟨clock.turn, ?_⟩
    simp [programFrom, Program.on, Routine.run, rehearsedCalls, noteCalls]
  | cons step rest ih =>
    obtain ⟨binding, hbinding, hecho⟩ := hsteps step (List.mem_cons_self ..)
    let call : Call := ⟨payload.withVars vars, workflow, step.activity, step.resolve vars⟩
    obtain ⟨turn, hcall⟩ := hplatform site call binding.options clock state
    obtain ⟨turn', hrest⟩ := ih (fun other hother => hsteps other (List.mem_cons_of_mem _ hother))
      (step.rehearse vars) (records ++ [echoRecord call records.length]) (.next :: site)
      ⟨clock.now, turn⟩ (note site call state)
    refine ⟨turn', ?_⟩
    simp only [programFrom, Bindings.require_eq_ok hbinding, Program.on, Routine.run_bind,
      hecho, Bindings.name_of_get? hbinding]
    rw [hcall]
    refine hrest.trans ?_
    simp only [rehearsedCalls, noteCalls, List.foldl_cons, List.mapIdx_cons, List.append_assoc,
      List.singleton_append, List.length_append, List.length_singleton, Nat.add_zero, call,
      Nat.add_assoc, Nat.add_comm 1]

/-! ## Histories and attempts -/

/-- An engine keeps one history for each call of a rehearsal. -/
theorem noteCalls_engine (site : Site) (calls : List Call) (limit : Nat)
    (history : List AttemptRecord) (world : ω) :
    noteCalls (fun _ call => Engine.recordHistory (.once call.activity)) site calls
        ⟨limit, history.rtake limit, world⟩ =
      ⟨limit, (history ++ calls.map fun call => AttemptRecord.once call.activity).rtake limit,
        world⟩ := by
  induction calls generalizing site history with
  | nil => simp [noteCalls]
  | cons call rest ih =>
    rw [noteCalls, Engine.recordHistory, Engine.keepLast_rtake, ih, List.map_cons,
      List.append_assoc, List.singleton_append]

/-- A ledger has one attempt for each call of a rehearsal. -/
theorem attemptsIn_noteCalls (site : Site) (calls : List Call) (ledger : Ledger ω) :
    attemptsIn (noteCalls Ledger.noteOnce site calls ledger).log =
      attemptsIn ledger.log ++ calls.mapIdx fun index call => ⟨site.length + index, call, 1⟩ := by
  induction calls generalizing site ledger with
  | nil => simp [noteCalls]
  | cons call rest ih =>
    rw [noteCalls, ih]
    simp [attemptsIn, Ledger.noteOnce, Ledger.note, Event.attempt?, Nat.add_assoc, Nat.add_comm 1]

section Rehearsed

variable (w : Workflow) (payload : Payload)

theorem rehearsedCalls_eq :
    rehearsedCalls w.name payload (w.startVars payload) w.steps =
      w.steps.mapIdx (w.rehearsedCall payload) :=
  rehearsedCalls_eq_mapIdx ..

def rehearsed : RunOutcome :=
  let steps := w.steps.mapIdx fun index step =>
    echoRecord (w.rehearsedCall payload index step) index
  ⟨w.name, StepRecord.lastOutput steps, w.rehearsedVars payload w.steps.length, steps⟩

variable {w} {bindings : Bindings ω}
variable (hsteps : ∀ step ∈ w.steps, bindings.EchoesAt step.activity)

include hsteps

theorem run_program_of_echoes {platform : Platform ω σ} {note : Site → Call → σ → σ}
    (hplatform : platform.Echoes note) (clock : Clock) (state : σ) :
    ∃ turn, ((w.program bindings payload).on platform []).run clock state =
      ⟨.ok (w.rehearsed payload), ⟨clock.now, turn⟩,
        noteCalls note [] (w.steps.mapIdx (w.rehearsedCall payload)) state⟩ := by
  obtain ⟨turn, hrun⟩ := run_programFrom_of_echoes hplatform hsteps w.name payload
    (w.startVars payload) [] [] clock state
  refine ⟨turn, hrun.trans ?_⟩
  rw [rehearsedCalls_eq, rehearsed, rehearsedVars, List.take_length]
  simp [List.mapIdx_mapIdx, Function.comp_def]

/-- The engine of a rehearsal has a history of one attempt for each step. -/
theorem run_of_echoes (clock : Clock) (limit : Nat) (world : ω) :
    ∃ turn, (w.run bindings payload).run clock (.start limit world) =
      ⟨.ok (w.rehearsed payload), ⟨clock.now, turn⟩,
        ⟨limit, (w.steps.map fun step => AttemptRecord.once step.activity).rtake limit,
          world⟩⟩ := by
  obtain ⟨turn, hrun⟩ := run_program_of_echoes payload hsteps Engine.echoes_platform clock
    (.start limit world)
  have hstart : Engine.start limit world =
      ⟨limit, ([] : List AttemptRecord).rtake limit, world⟩ := by
    simp [Engine.start, List.rtake]
  have hcalls : (w.steps.mapIdx (w.rehearsedCall payload)).map
      (fun call => AttemptRecord.once call.activity) =
        w.steps.map fun step => AttemptRecord.once step.activity :=
    List.ext_getElem (by simp) (by simp [rehearsedCall])
  refine ⟨turn, ?_⟩
  rw [← on_program_engine bindings payload w [], hrun, hstart, noteCalls_engine, hcalls,
    List.nil_append]

theorem attempts_of_echoes (clock : Clock) (world : ω) :
    w.attempts bindings payload clock world =
      w.steps.mapIdx fun index step => ⟨index, w.rehearsedCall payload index step, 1⟩ := by
  obtain ⟨turn, hrun⟩ := run_program_of_echoes payload hsteps (Ledger.echoes_platform 0) clock
    (.start world)
  rw [attempts, noted, hrun, Finish.attempts, attemptsIn_noteCalls]
  simp [Ledger.start, attemptsIn, List.mapIdx_mapIdx, Function.comp_def]

omit hsteps

theorem rehearsed_of_vars_eq {other : Payload} (h : other.vars = payload.vars) :
    w.rehearsed other = w.rehearsed payload := by
  have hstart : w.startVars other = w.startVars payload := by rw [startVars, startVars, h]
  simp only [rehearsed, echoRecord, rehearsedCall, rehearsedParams, rehearsedVars, hstart]

theorem rehearsedVars_zero : w.rehearsedVars payload 0 = w.startVars payload := by
  rw [rehearsedVars, List.take_zero, List.foldl_nil]

/-- The next step of a rehearsal finds the parameters of the one before it under its output. -/
theorem rehearsedVars_succ {index : Nat} {step : Step} (h : w.steps[index]? = some step) :
    w.rehearsedVars payload (index + 1) = step.rehearse (w.rehearsedVars payload index) := by
  rw [rehearsedVars, rehearsedVars, List.take_add_one, h, Option.toList_some, List.foldl_append]
  rfl

theorem result_rehearsed : (w.rehearsed payload).result =
    ((w.rehearsed payload).steps.getLast?.map fun record => .object record.params).getD .null := by
  change StepRecord.lastOutput (w.rehearsed payload).steps = _
  rw [StepRecord.lastOutput]
  cases hlast : (w.rehearsed payload).steps.getLast? with
  | none => rfl
  | some record =>
    obtain ⟨index, hlt, rfl⟩ := List.mem_mapIdx.mp (List.mem_of_getLast? hlast)
    rfl

end Rehearsed

/-- What a rehearsal gives back. -/
theorem rehearse_of_sound (w : Workflow) {groups : Groups} (hsound : groups.Sound)
    (payload : Payload) :
    ∃ bindings turn, w.echoBindings w.activities groups = .ok bindings ∧
      w.check bindings = .ok () ∧ (∀ step ∈ w.steps, bindings.EchoesAt step.activity) ∧
      w.rehearse payload groups = .ok ⟨.ok (w.rehearsed payload), ⟨0, turn⟩,
        ⟨Engine.standardHistoryLimit, (w.steps.map fun step =>
          AttemptRecord.once step.activity).rtake Engine.standardHistoryLimit, ()⟩⟩ := by
  obtain ⟨bindings, hbindings, hnames, hechoes⟩ := w.exists_echoBindings w.activities hsound
  have hsteps : ∀ step ∈ w.steps, bindings.EchoesAt step.activity :=
    fun step hstep => hechoes _ (List.mem_map_of_mem hstep)
  have hcheck : w.check bindings = .ok () := check_of_bound fun step hstep =>
    not_unbound_iff.mpr ((hnames _).mpr (List.mem_map_of_mem hstep))
  obtain ⟨turn, hrun⟩ := run_of_echoes payload hsteps ⟨0, 0⟩ Engine.standardHistoryLimit ()
  refine ⟨bindings, turn, hbindings, hcheck, hsteps, ?_⟩
  rw [rehearse, hbindings]
  simp only [bind, Except.bind, hcheck, hrun, pure, Except.pure]

theorem preview_of_sound (w : Workflow) {groups : Groups} (hsound : groups.Sound)
    (payload : Payload) : w.preview payload groups = .ok (w.rehearsed payload) := by
  obtain ⟨bindings, turn, -, -, -, hrehearse⟩ := w.rehearse_of_sound hsound payload
  rw [preview, hrehearse]
  rfl

/-- A workflow can be rehearsed whatever its steps, its payload and the groups are, as long as
the groups make sense and have a default group among them. The activities, the bindings and the
workflow stand, each step takes a single attempt at the call that it would make, and no time
passes, even if the attempts have none. The outcome has a record for each step in order, whose
output are the parameters of the step; the result is the last output, or null without steps. The
variables are those of the workflow under those of the payload, and each output is stored for the
steps that follow. A payload with the same variables has the same outcome. -/
theorem preview_echoes (w : Workflow) (groups : Groups) (hsound : groups.Sound)
    (payload : Payload) :
    let vars := w.rehearsedVars payload
    let params (index : Nat) (step : Step) := step.resolve (vars index)
    (∃ bindings finish outcome,
      w.echoBindings w.activities groups = .ok bindings ∧ w.check bindings = .ok () ∧
      w.rehearse payload groups = .ok finish ∧ finish.value = .ok outcome ∧
      w.preview payload groups = .ok outcome ∧
      finish.clock.now = 0 ∧
      w.attempts bindings payload ⟨0, 0⟩ () = (w.steps.mapIdx fun index step =>
        ⟨index, ⟨payload.withVars (vars index), w.name, step.activity, params index step⟩, 1⟩) ∧
      finish.state.history = (w.steps.map fun step =>
        ⟨step.activity, 1, [.pending, .attempting, .succeeded]⟩).rtake Engine.standardHistoryLimit ∧
      outcome.workflow = w.name ∧
      outcome.steps = (w.steps.mapIdx fun index step =>
        ⟨index, step.activity, params index step, .object (params index step)⟩) ∧
      outcome.result = ((outcome.steps.getLast?.map fun record => .object record.params).getD
        .null) ∧
      outcome.vars = vars w.steps.length) ∧
    ((payload.vars.map Prod.fst).Nodup → ∀ name, Fields.get? (vars 0) name =
      (Fields.get? payload.vars name).or (Fields.get? w.vars name)) ∧
    (∀ index step name, w.steps[index]? = some step → Fields.get? (vars (index + 1)) name =
      if step.output = some name then some (.object (params index step))
      else Fields.get? (vars index) name) ∧
    ∀ other : Payload, other.vars = payload.vars →
      w.preview other groups = w.preview payload groups := by
  intro vars params
  refine ⟨?_, ?_, ?_, ?_⟩
  · obtain ⟨bindings, turn, hbindings, hcheck, hsteps, hrehearse⟩ :=
      w.rehearse_of_sound hsound payload
    refine ⟨bindings, _, w.rehearsed payload, hbindings, hcheck, hrehearse, rfl,
      w.preview_of_sound hsound payload, rfl, attempts_of_echoes payload hsteps ⟨0, 0⟩ (), ?_, rfl,
      rfl, result_rehearsed payload, rfl⟩
    simp only [AttemptRecord.once]
  · intro hnodup name
    rw [show vars 0 = w.startVars payload from rehearsedVars_zero payload, startVars,
      Fields.get?_insertAll w.vars payload.vars hnodup]
  · intro index step name hstep
    rw [show vars (index + 1) = _ from rehearsedVars_succ payload hstep, Step.rehearse,
      Step.get?_store]
  · intro other hvars
    rw [w.preview_of_sound hsound, w.preview_of_sound hsound, rehearsed_of_vars_eq payload hvars]

/-- Three steps, two of them at one activity, whose attempts have no time at all. The title of
the payload wins over that of the workflow, and the payload has nothing else. -/
theorem preview_echoes_three :
    let groups : Groups := [("default", ⟨⟨.zero, .standard⟩, []⟩),
      ("long_running", ⟨.longRunning, ["transcribe_media", "publish"]⟩)]
    let extract : Step := ⟨"extract_text", [("language", .text "fr")], ["title"], some "text"⟩
    let publish : Step := ⟨"publish", [], ["text", "missing"], some "title"⟩
    let again : Step := ⟨"extract_text", [], ["title"], none⟩
    let w : Workflow := ⟨"ingest", [extract, publish, again], [("title", .text "draft")]⟩
    let payload : Payload := { (default : Payload) with vars := [("title", .text "final")] }
    let text : Json := .object [("language", .text "fr"), ("title", .text "final")]
    let title : Json := .object [("text", text)]
    groups.Sound ∧ ∃ outcome, w.preview payload groups = .ok outcome ∧
      outcome.vars = [("text", text), ("title", title)] ∧
      outcome.result = .object [("title", title)] ∧ outcome.steps.length = 3 := by
  intro groups extract publish again w payload text title
  have hsound : groups.Sound := ⟨by decide, by decide +kernel, by decide⟩
  obtain ⟨⟨_, _, outcome, -, -, -, -, hpreview, -, -, -, -, hsteps, hresult, hvars⟩, -⟩ :=
    preview_echoes w groups hsound payload
  refine ⟨hsound, outcome, hpreview, hvars, ?_, ?_⟩
  · rw [hresult, hsteps]
    rfl
  · rw [hsteps]
    rfl

end Workflow

end ActivityFlow
