import ActivityFlow.Proofs.Workflow.Program

/-!
# The attempts of a run

A run on a ledger goes in step with the run on an engine, and notes the beginning of every
attempt. The attempts of a step carry its calls, and they come before all attempts of the steps
behind it. Steps that stand behind others attempt what they attempt alone.
-/
namespace ActivityFlow

variable {ω : Type}

/-- An attempt of a run: the index of the step, the call, and which attempt of the step it is. -/
structure Attempt where
  step : Nat
  call : Call
  number : Nat
deriving DecidableEq

/-- An attempt at a step that stands behind so many others. -/
def Attempt.behind (count : Nat) (attempt : Attempt) : Attempt :=
  { attempt with step := count + attempt.step }

/-- The attempt that begins with an event. The ways to the site of a step are as many as the
steps before it. -/
def Event.attempt? : Event → Option Attempt
  | .began site call number => some ⟨site.length, call, number⟩
  | .finished _ _ _ _ | .looked _ | .took _ => none

theorem Event.step_of_attempt {e : Event} {attempt : Attempt} (h : e.attempt? = some attempt) :
    attempt.step = e.site.length := by
  cases e with
  | began site call number =>
    rw [← Option.some.inj h]
    rfl
  | finished site call record outcome => cases h
  | looked site => cases h
  | took site => cases h

def attemptsIn (log : List Event) : List Attempt := log.filterMap Event.attempt?

theorem InvocationLog.call_of_attempt {site : Site} {call : Call} {made : Nat}
    {entries : List Event} {result : Option Outcome}
    (h : InvocationLog site call made entries result) {e : Event} (he : e ∈ entries)
    {attempt : Attempt} (hattempt : e.attempt? = some attempt) : attempt.call = call := by
  have hbegun : ∀ count, e ∈ beginnings site call made count → attempt.call = call := by
    intro count hmem
    obtain ⟨number, -, rfl⟩ := List.mem_map.mp hmem
    rw [← Option.some.inj hattempt]
  cases h with
  | underway count => exact hbegun _ he
  | finished count outcome hresult =>
    rcases List.mem_append.mp he with he | he
    · exact hbegun _ he
    · obtain rfl := List.mem_singleton.mp he
      cases hattempt
  | uncounted => exact hbegun _ he

/-- If everything in an orderly log happens at nodes that follow one another, attempts do not
come before those of earlier nodes. -/
theorem Orderly.pairwise_attempts {log : List Event} (h : Orderly [] log)
    (hsites : ∀ e ∈ log, ∃ index, e.site = List.replicate index .next) :
    (attemptsIn log).Pairwise fun attempt later => attempt.step ≤ later.step := by
  have hevents : log.Pairwise fun e later => e.site.length ≤ later.site.length := by
    refine h.order.imp_of_mem ?_
    intro e later he hlater hpermits
    obtain ⟨i, hi⟩ := hsites e he
    obtain ⟨j, hj⟩ := hsites later hlater
    by_contra hlt
    have hbehind : e.Behind (List.replicate j .next) := by
      rw [hi, hj, List.length_replicate, List.length_replicate] at hlt
      obtain ⟨k, rfl⟩ := Nat.exists_eq_add_of_lt (Nat.lt_of_not_le hlt)
      refine ⟨List.replicate k .next, ?_⟩
      rw [hi, ← List.replicate_succ, List.replicate_append_replicate]
      congr 1
      omega
    exact (hpermits.1 _ hbehind).2 hj
  rw [attemptsIn, List.pairwise_filterMap]
  refine hevents.imp ?_
  intro e later hle attempt hattempt other hother
  rw [Event.step_of_attempt hattempt, Event.step_of_attempt hother]
  exact hle

/-- Noting an event adds the attempt that begins with it, if there is one. -/
theorem attemptsIn_note {f : Attempt → Attempt} (earlier : List Attempt)
    {ledger later : Ledger ω} {event event' : Event}
    (h : attemptsIn later.log = earlier ++ (attemptsIn ledger.log).map f)
    (hevent : event'.attempt? = event.attempt?.map f) :
    attemptsIn (later.note event').log = earlier ++ (attemptsIn (ledger.note event).log).map f := by
  unfold attemptsIn at h ⊢
  cases hattempt : event.attempt? with
  | none => simp [Ledger.note, hevent, hattempt, h]
  | some attempt => simp [Ledger.note, hevent, hattempt, h]

namespace Ledger

/-- A relation of ledgers that holds on while related worlds take the place of their worlds, and
while attempts that correspond by a function are noted. -/
structure Follow (R : ω → ω → Prop) (f : Attempt → Attempt) (Q : Ledger ω → Ledger ω → Prop) :
    Prop where
  world : ∀ ledger later, Q ledger later → R ledger.world later.world
  setWorld : ∀ world world' ledger later, R world world' → Q ledger later →
    Q { ledger with world } { later with world := world' }
  note : ∀ ledger later event event', Q ledger later →
    event'.attempt? = event.attempt?.map f → Q (ledger.note event) (later.note event')

/-- Invocations with corresponding attempts whose work is alike. -/
theorem Follow.alike_attemptsAfter {R : ω → ω → Prop} {f : Attempt → Attempt}
    {Q : Ledger ω → Ledger ω → Prop} (hQ : Follow R f Q) {site site' : Site} {call call' : Call}
    (hattempt : ∀ number, f ⟨site.length, call, number⟩ = ⟨site'.length, call', number⟩)
    {work work' : Routine ω Outcome} (hwork : Routine.Alike R work work')
    (options : AttemptOptions) (made remaining : Nat) :
    Routine.Alike Q (attemptsAfter site work call options made remaining)
      (attemptsAfter site' work' call' options made remaining) := by
  induction remaining generalizing made with
  | zero => exact .done _
  | succ remaining ih =>
    have hbegun : Routine.Alike Q
        (attempt site work call (made + 1) options.timeout.ceilMillis)
        (attempt site' work' call' (made + 1) options.timeout.ceilMillis) := by
      refine .act (fun _ _ _ h => hQ.note _ _ _ _ h ?_) ?_
      · simp [Event.attempt?, hattempt]
      · intro clock _ _ _
        exact (hwork.focus hQ.world hQ.setWorld).cutOff _ _ _
    have hconclude : ∀ outcome, Routine.Alike Q
        (conclude site call made outcome) (conclude site' call' made outcome) := by
      intro outcome
      exact .act (fun _ _ _ h => hQ.note _ _ _ _ h rfl) fun _ _ _ _ => .done _
    refine hbegun.bind fun result => ?_
    cases result.getD (.error (Engine.overdue options.timeout)) with
    | ok value => exact hconclude _
    | error failure =>
      by_cases hretries : options.retry.retries failure (made + 1) = true
      · simp only [hretries, if_true]
        exact (Routine.Alike.sleep _).bind fun _ => ih (made + 1)
      · simp only [hretries]
        exact hconclude _

/-- A second ledger has the world of the first one. It has some attempts, and then those of the
first ledger at steps that stand behind so many others. -/
structure Follows (count : Nat) (earlier : List Attempt) (ledger later : Ledger ω) : Prop where
  world : ledger.world = later.world
  attempts : attemptsIn later.log = earlier ++ (attemptsIn ledger.log).map (Attempt.behind count)

theorem follow_behind (count : Nat) (earlier : List Attempt) :
    Follow Eq (Attempt.behind count) (Follows (ω := ω) count earlier) where
  world _ _ h := h.world
  setWorld _ _ _ _ hworld h := ⟨hworld, h.attempts⟩
  note _ _ _ _ h hevent := ⟨h.world, attemptsIn_note earlier h.attempts hevent⟩

end Ledger

namespace Workflow

variable (bindings : Bindings ω) (workflow : String) (payload : Payload)

/-- Programs of the same steps are alike, at corresponding sites of two platforms and with two
payloads, if the invocations of the bound activities are. -/
theorem alike_on_programFrom {σ τ : Type} {platform : Platform ω σ} {platform' : Platform ω τ}
    {Q : σ → τ → Prop} {S : Site → Site → Prop} {payload payload' : Payload}
    (hnext : ∀ site site', S site site' → S (.next :: site) (.next :: site'))
    (hinvoke : ∀ site site', S site site' → ∀ binding ∈ bindings.entries, ∀ vars params,
      Routine.Alike Q
        (platform.invoke site binding.activity
          ⟨payload.withVars vars, workflow, binding.name, params⟩ binding.options)
        (platform'.invoke site' binding.activity
          ⟨payload'.withVars vars, workflow, binding.name, params⟩ binding.options))
    {site site' : Site} (hsite : S site site') (vars : Fields) (records : List StepRecord)
    (steps : List Step) :
    Routine.Alike Q
      ((programFrom bindings workflow payload vars records steps).on platform site)
      ((programFrom bindings workflow payload' vars records steps).on platform' site') := by
  induction steps generalizing vars records site site' with
  | nil => exact .done _
  | cons step rest ih =>
    rw [programFrom, programFrom]
    cases hrequire : bindings.require step.activity with
    | error e => exact .done _
    | ok binding =>
      refine (hinvoke site site' hsite binding (Bindings.mem_of_require hrequire) vars
        (step.resolve vars)).bind fun outcome => ?_
      cases outcome with
      | error failure => exact .done _
      | ok output => exact ih (hnext site site' hsite) _ _

/-- Steps that stand behind others note what they note alone. -/
theorem alike_programFrom {count : Nat} {earlier : List Attempt} (limit : Nat) {site site' : Site}
    (hsite : site'.length = count + site.length) (vars : Fields) (records : List StepRecord)
    (steps : List Step) :
    Routine.Alike (Ledger.Follows count earlier)
      ((programFrom bindings workflow payload vars records steps).on (Ledger.platform limit) site)
      ((programFrom bindings workflow payload vars records steps).on (Ledger.platform limit)
        site') := by
  refine alike_on_programFrom bindings workflow
    (S := fun site site' => site'.length = count + site.length) ?_ ?_ hsite vars records steps
  · intro site site' h
    simp only [List.length_cons, h]
    omega
  · intro site site' h binding _ vars params
    refine (Ledger.follow_behind count earlier).alike_attemptsAfter ?_ (.refl _) _ _ _
    intro number
    rw [Attempt.behind, h]

/-- A run goes on an engine and on a ledger in step, and writes one of the logs of its
program. -/
theorem inStep_programFrom {R : Engine ω → Ledger ω → Prop} (hR : Engine.Tracks R) (limit : Nat)
    (site : Site) (vars : Fields) (records : List StepRecord) (steps : List Step) :
    Routine.InStep R Ledger.log
      ((programFrom bindings workflow payload vars records steps).on Engine.platform site)
      ((programFrom bindings workflow payload vars records steps).on (Ledger.platform limit) site)
      ((programFrom bindings workflow payload vars records steps).Logs site) := by
  induction steps generalizing vars records site with
  | nil => exact .done ⟨rfl, by simp⟩ ⟨rfl, by simp⟩
  | cons step rest ih =>
    rw [programFrom]
    cases bindings.require step.activity with
    | error e => exact .done ⟨rfl, by simp⟩ ⟨rfl, by simp⟩
    | ok binding =>
      refine (Engine.inStep_attempts hR site _ _ binding.options 0 (words32 - 1) (by decide)).bind
        fun outcome => ?_
      cases outcome with
      | error failure => exact .done ⟨rfl, by simp⟩ ⟨rfl, by simp⟩
      | ok output => exact ih _ _ _

variable {bindings workflow payload}

/-- Whatever is in the log of a run belongs to one of its steps, and an attempt makes the call
of this step. -/
theorem step_of_logs {site : Site} {vars : Fields} {records : List StepRecord}
    {steps : List Step} {entries : List Event} {result : Option (Except RunFailure RunOutcome)}
    (h : (programFrom bindings workflow payload vars records steps).Logs site entries result) :
    ∀ e ∈ entries, ∃ index step, steps[index]? = some step ∧
      e.site = List.replicate index .next ++ site ∧
      ∀ attempt, e.attempt? = some attempt →
        attempt.call.workflow = workflow ∧ attempt.call.activity = step.activity := by
  induction steps generalizing vars records site entries result with
  | nil =>
    obtain ⟨rfl, -⟩ := h
    simp
  | cons step rest ih =>
    rw [programFrom] at h
    cases hrequire : bindings.require step.activity with
    | error e =>
      rw [hrequire] at h
      obtain ⟨rfl, -⟩ := h
      simp
    | ok binding =>
      rw [hrequire] at h
      have hhere : ∀ {first value}, InvocationLog site ⟨payload.withVars vars, workflow,
          binding.name, step.resolve vars⟩ 0 first value → ∀ e ∈ first, ∃ index found,
          (step :: rest)[index]? = some found ∧ e.site = List.replicate index .next ++ site ∧
          ∀ attempt, e.attempt? = some attempt →
            attempt.call.workflow = workflow ∧ attempt.call.activity = found.activity := by
        intro first value hlog e he
        refine ⟨0, step, rfl, hlog.orderly.1 e he, fun attempt hattempt => ?_⟩
        rw [hlog.call_of_attempt he hattempt]
        exact ⟨rfl, Bindings.name_of_require hrequire⟩
      cases h with
      | first hlog => exact hhere hlog
      | @second first later outcome result hlog hlater =>
        intro e he
        rcases List.mem_append.mp he with he | he
        · exact hhere hlog e he
        · cases outcome with
          | error failure =>
            obtain ⟨rfl, -⟩ := hlater
            cases he
          | ok output =>
            obtain ⟨index, found, hfound, hsite, hcall⟩ := ih hlater e he
            refine ⟨index + 1, found, hfound, ?_, hcall⟩
            rw [hsite, List.replicate_succ', List.append_assoc]
            rfl

end Workflow

end ActivityFlow
