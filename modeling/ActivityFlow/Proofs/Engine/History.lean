import ActivityFlow.Proofs.Engine.Program
import Mathlib.Data.List.DropRight

/-!
# The histories that an engine keeps

A ledger forgets nothing: it notes every beginning and every end of an invocation. Programs run
on an engine and on a ledger in step, and at any time the engine keeps the histories at the end
of those that the ledger has noted since the histories were last taken, as many as its limit
allows. The limit matters to nothing else.
-/
namespace ActivityFlow

variable {ω φ α : Type}

/-- The histories since they were last taken, after one more event. -/
def Event.update (records : List AttemptRecord) : Event → List AttemptRecord
  | finished _ _ record _ => records ++ [record]
  | took _ => []
  | began _ _ _ | looked _ => records

/-- The histories of the invocations that have finished since the histories were last taken, the
oldest first. -/
def finishedSince (log : List Event) : List AttemptRecord := log.foldl Event.update []

theorem finishedSince_append (log : List Event) (event : Event) :
    finishedSince (log ++ [event]) = event.update (finishedSince log) := by
  simp [finishedSince]

/-! ## Ledgers -/

/-- The outer world and what has happened so far. -/
structure Ledger (ω : Type) where
  world : ω
  log : List Event

namespace Ledger

/-- A ledger before the first event. -/
def start (world : ω) : Ledger ω := ⟨world, []⟩

def note (event : Event) (ledger : Ledger ω) : Ledger ω :=
  { ledger with log := ledger.log ++ [event] }

def inWorld (p : Routine ω α) : Routine (Ledger ω) α :=
  p.focus (·.world) fun world ledger => { ledger with world }

/-- An attempt: its beginning is noted, and it has so many milliseconds. -/
def attempt (site : Site) (work : Routine ω Outcome) (call : Call) (number millis : Nat) :
    Routine (Ledger ω) (Option Outcome) :=
  .act (fun _ => note (.began site call number)) fun clock _ =>
    (inWorld work).cutOff (clock.now + millis) clock.turn clock.now

/-- The end of an invocation after `made` retried attempts is noted. -/
def conclude (site : Site) (call : Call) (made : Nat) (outcome : Outcome) :
    Routine (Ledger ω) Outcome :=
  (Routine.modify
    (note (.finished site call (.ended call.activity made outcome) outcome))).map fun _ => outcome

/-- The attempts of an invocation after `made` retried ones, of which at most `remaining` can be
counted. -/
def attemptsAfter (site : Site) (work : Routine ω Outcome) (call : Call) (options : AttemptOptions)
    (made : Nat) : Nat → Routine (Ledger ω) Outcome
  | 0 => .done (.error Engine.uncounted)
  | remaining + 1 =>
    (attempt site work call (made + 1) options.timeout.ceilMillis).bind fun result =>
      match result.getD (.error (Engine.overdue options.timeout)) with
      | .ok value => conclude site call made (.ok value)
      | .error failure =>
        if options.retry.retries failure (made + 1) then
          (Routine.sleep (options.retry.delayAfter (made + 1)).ceilMillis).bind fun _ =>
            attemptsAfter site work call options (made + 1) remaining
        else conclude site call made (.error failure)

/-- Programs run on a ledger. A look shows the last of the histories, up to the limit. -/
def platform (limit : Nat) : Platform ω (Ledger ω) where
  invoke site activity call options :=
    attemptsAfter site (activity call) call options 0 (words32 - 1)
  look site := Routine.transact fun _ ledger =>
    ((finishedSince ledger.log).rtake limit, ledger.note (.looked site))
  take site := Routine.transact fun _ ledger =>
    ((finishedSince ledger.log).rtake limit, ledger.note (.took site))

end Ledger

namespace Engine

/-- Programs run on an engine. -/
def platform : Platform ω (Engine ω) where
  invoke _ := invoke
  look _ := Routine.transact fun _ engine => (engine.history, engine)
  take _ := Routine.transact fun _ => takeHistory

theorem keepLast_rtake (limit : Nat) (records : List AttemptRecord) (record : AttemptRecord) :
    keepLast limit (records.rtake limit) record = (records ++ [record]).rtake limit := by
  unfold keepLast
  by_cases hzero : limit = 0
  · simp [hzero, List.rtake]
  · rw [if_neg hzero, List.rtake, List.rtake, List.drop_drop, List.length_drop,
      List.drop_append_of_le_length (by simp; omega), List.length_append]
    congr 2
    simp only [List.length_singleton]
    omega

/-- The engine and the ledger agree: the world is the same, and the engine keeps the last of
the histories in the ledger, each of which is that of an invocation that has ended. -/
structure Agrees (limit : Nat) (engine : Engine ω) (ledger : Ledger ω) : Prop where
  historyLimit : engine.historyLimit = limit
  world : engine.world = ledger.world
  history : engine.history = (finishedSince ledger.log).rtake limit
  ended : ∀ record ∈ finishedSince ledger.log, ∃ site call outcome,
    .finished site call record outcome ∈ ledger.log ∧ record.stage = .closing outcome

variable {limit : Nat} {engine : Engine ω} {ledger : Ledger ω}

theorem agrees_start (limit : Nat) (world : ω) :
    Agrees limit (start limit world) (Ledger.start world) :=
  ⟨rfl, rfl, by simp [start, Ledger.start, finishedSince, List.rtake], by
    simp [Ledger.start, finishedSince]⟩

namespace Agrees

theorem setWorld (h : Agrees limit engine ledger) (world : ω) :
    Agrees limit { engine with world } { ledger with world } :=
  ⟨h.historyLimit, rfl, h.history, h.ended⟩

/-- Noting an event after which the histories are the same. -/
theorem note (h : Agrees limit engine ledger) {event : Event}
    (hevent : event.update (finishedSince ledger.log) = finishedSince ledger.log) :
    Agrees limit engine (ledger.note event) := by
  have hlog : finishedSince (ledger.note event).log = finishedSince ledger.log := by
    rw [Ledger.note, finishedSince_append, hevent]
  refine ⟨h.historyLimit, h.world, by rw [hlog, h.history], ?_⟩
  intro record hrecord
  obtain ⟨site, call, outcome, hmem, hstage⟩ := h.ended record (hlog ▸ hrecord)
  exact ⟨site, call, outcome, List.mem_append_left _ hmem, hstage⟩

theorem record (h : Agrees limit engine ledger) (site : Site) (call : Call) (made : Nat)
    (outcome : Outcome) :
    Agrees limit (recordHistory (.ended call.activity made outcome) engine)
      (ledger.note (.finished site call (.ended call.activity made outcome) outcome)) := by
  refine ⟨h.historyLimit, h.world, ?_, ?_⟩
  · rw [Ledger.note, finishedSince_append, recordHistory, h.history, h.historyLimit,
      keepLast_rtake]
    rfl
  · intro record hrecord
    rw [Ledger.note, finishedSince_append] at hrecord
    rcases List.mem_append.mp hrecord with hrecord | hrecord
    · obtain ⟨site, call, outcome, hmem, hstage⟩ := h.ended record hrecord
      exact ⟨site, call, outcome, List.mem_append_left _ hmem, hstage⟩
    · obtain rfl := List.mem_singleton.mp hrecord
      exact ⟨site, call, outcome, List.mem_append_right _ (List.mem_singleton_self _),
        by simp [AttemptRecord.ended, AttemptRecord.stage]⟩

theorem take (h : Agrees limit engine ledger) (site : Site) :
    Agrees limit (takeHistory engine).2 (ledger.note (.took site)) := by
  have hlog : finishedSince (ledger.note (.took site)).log = [] := by
    rw [Ledger.note, finishedSince_append]
    rfl
  exact ⟨h.historyLimit, h.world, by rw [hlog]; simp [takeHistory, List.rtake], by simp [hlog]⟩

end Agrees

/-- A relation of engines to ledgers is one of tracking if an invocation keeps it: it compares
the worlds, and is not disturbed by what is noted. -/
structure Tracks (R : Engine ω → Ledger ω → Prop) : Prop where
  world : ∀ engine ledger, R engine ledger → engine.world = ledger.world
  setWorld : ∀ world engine ledger, R engine ledger →
    R { engine with world } { ledger with world }
  began : ∀ site call number engine ledger, R engine ledger →
    R engine (ledger.note (.began site call number))
  record : ∀ site (call : Call) made outcome engine ledger, R engine ledger →
    R (recordHistory (.ended call.activity made outcome) engine)
      (ledger.note (.finished site call (.ended call.activity made outcome) outcome))

theorem tracks_agrees (limit : Nat) : Tracks (Agrees (ω := ω) limit) where
  world _ _ h := h.world
  setWorld world _ _ h := h.setWorld world
  began _ _ _ _ _ h := h.note rfl
  record site call made outcome _ _ h := h.record site call made outcome

/-- The world of an engine is that of a ledger, whatever histories the engine keeps. -/
def SameWorld (engine : Engine ω) (ledger : Ledger ω) : Prop := engine.world = ledger.world

theorem tracks_sameWorld : Tracks (SameWorld (ω := ω)) where
  world _ _ h := h
  setWorld _ _ _ _ := rfl
  began _ _ _ _ _ h := h
  record _ _ _ _ _ _ h := h

/-! ## Engine and ledger in step -/

variable {R : Engine ω → Ledger ω → Prop}

/-- The routine of one attempt writes that the attempt begins. -/
theorem inStep_attempt (hR : Tracks R) (site : Site) (work : Routine ω Outcome) (call : Call)
    (number millis : Nat) :
    Routine.InStep R Ledger.log (Routine.timeout millis (inWorld work))
      (Ledger.attempt site work call number millis) (EventLog (.began site call number)) := by
  refine .act (fun _ _ => [.began site call number]) (.inl ⟨rfl, rfl⟩)
    (fun _ => hR.began site call number) (fun _ _ _ _ => rfl) ?_
  intro clock engine ledger _
  have hwork : Routine.InStep R Ledger.log (inWorld work) (Ledger.inWorld work)
      LogSpec.silent :=
    .focus work hR.world hR.setWorld fun _ _ => rfl
  refine (hwork.cutOff _ _ _).mono ?_
  rintro entries result rfl
  exact .inr rfl

/-- The end of an invocation writes its history. -/
theorem inStep_conclude (hR : Tracks R) (site : Site) (call : Call) (made : Nat)
    (last : AttemptStage) (outcome : Outcome) (hlast : last = .closing outcome) :
    Routine.InStep R Ledger.log
      (conclude (.underway call.activity made) last outcome)
      (Ledger.conclude site call made outcome) fun entries result => entries = [] ∧ result = none ∨
        entries = [.finished site call (.ended call.activity made outcome) outcome] ∧
          ∀ o, result = some o → o = outcome := by
  have hrecord : ((AttemptRecord.underway call.activity made).enter last).1 =
      .ended call.activity made outcome := by
    rw [AttemptRecord.enter_underway _ _ (by rw [hlast]; cases outcome <;> rfl), hlast]
    rfl
  rw [conclude, Ledger.conclude, hrecord]
  refine Routine.InStep.map (S := EventLog (.finished site call (.ended call.activity made outcome)
    outcome)) ?_ ?_ ?_
  · exact .transact (fun _ _ => [_]) (.inl ⟨rfl, rfl⟩)
      (fun _ => hR.record site call made outcome) (fun _ _ _ _ => rfl) (fun _ _ _ _ => rfl)
      (fun _ _ _ _ => .inr rfl) fun _ _ _ _ => .inr rfl
  · rintro entries (⟨rfl, -⟩ | rfl)
    · exact .inl ⟨rfl, rfl⟩
    · exact .inr ⟨rfl, by simp⟩
  · rintro entries a (⟨-, h⟩ | rfl)
    · cases h
    · exact ⟨.inr ⟨rfl, by simp⟩, .inr ⟨rfl, by simp⟩⟩

end Engine

theorem beginnings_succ (site : Site) (call : Call) (made count : Nat) :
    beginnings site call made (count + 1) =
      .began site call (made + 1) :: beginnings site call (made + 1) count := by
  simp [beginnings, List.range'_succ]

/-- One attempt more at the beginning. -/
theorem InvocationLog.cons {site : Site} {call : Call} {made : Nat} {entries : List Event}
    {result : Option Outcome} (hmade : made + 1 < words32)
    (h : InvocationLog site call (made + 1) entries result) :
    InvocationLog site call made (.began site call (made + 1) :: entries) result := by
  cases h with
  | underway count =>
    rw [← beginnings_succ]
    exact .underway _
  | finished count outcome h =>
    rw [← List.cons_append, ← beginnings_succ, show made + 1 + count = made + (count + 1) by omega]
    exact .finished _ outcome h
  | uncounted =>
    rw [← beginnings_succ, show words32 - 1 - (made + 1) + 1 = words32 - 1 - made by omega]
    exact .uncounted

namespace Engine

variable {limit : Nat} {R : Engine ω → Ledger ω → Prop}

/-- The attempts of an invocation on the engine and on the ledger. -/
theorem inStep_attempts (hR : Tracks R) (site : Site) (work : Routine ω Outcome) (call : Call)
    (options : AttemptOptions) (made remaining : Nat) (hcount : made + remaining + 1 = words32) :
    Routine.InStep R Ledger.log
      (attemptFrom work options remaining (.retried call.activity made))
      (Ledger.attemptsAfter site work call options made remaining)
      (InvocationLog site call made) := by
  induction remaining generalizing made with
  | zero =>
    refine .done (.underway 0) ?_
    have hnone : words32 - 1 - made = 0 := by omega
    have huncounted : InvocationLog site call made
        (beginnings site call made (words32 - 1 - made)) (some (.error Engine.uncounted)) :=
      .uncounted
    rwa [hnone] at huncounted
  | succ remaining ih =>
    rw [attemptFrom, AttemptRecord.start_retried _ _ (by omega), Ledger.attemptsAfter]
    refine ((inStep_attempt hR site work call (made + 1) _).bind
      (U := fun _ => (InvocationLog site call made).after [.began site call (made + 1)]) ?_).mono ?_
    · intro result
      have hconclude : ∀ last outcome, last = AttemptStage.closing outcome →
          Routine.InStep R Ledger.log (conclude (.underway call.activity made) last outcome)
            (Ledger.conclude site call made outcome)
            ((InvocationLog site call made).after [.began site call (made + 1)]) := by
        intro last outcome hlast
        refine (inStep_conclude hR site call made last outcome hlast).mono ?_
        rintro entries result (⟨rfl, rfl⟩ | ⟨rfl, hresult⟩)
        · exact .underway 1
        · exact .finished 0 outcome hresult
      cases hverdict : result.getD (.error (overdue options.timeout)) with
      | ok value => exact hconclude _ _ rfl
      | error failure =>
        by_cases hretries : options.retry.retries failure (made + 1) = true
        · simp only [hretries, if_true, AttemptRecord.enter_retrying_underway]
          refine ((Routine.InStep.sleep _).bind fun _ => ih (made + 1) (by omega)).mono ?_
          intro entries result hthen
          cases hthen with
          | first h =>
            obtain rfl : entries = [] := h
            exact .underway 1
          | second h hlater =>
            obtain rfl : _ = [] := h
            exact hlater.cons (by omega)
        · simp only [hretries]
          exact hconclude _ _ rfl
    · intro entries result hthen
      cases hthen with
      | first h =>
        rcases h with ⟨rfl, -⟩ | rfl
        · exact .underway 0
        · exact .underway 1
      | second h hlater =>
        rcases h with ⟨-, h⟩ | rfl
        · cases h
        · exact hlater

/-- The histories are shown, and perhaps taken, and this is noted. -/
theorem inStep_histories {event : Event} {change : Engine ω → Engine ω}
    (h : ∀ engine ledger, Agrees limit engine ledger →
      Agrees limit (change engine) (ledger.note event)) :
    Routine.InStep (Agrees limit) Ledger.log
      (Routine.transact fun _ engine => (engine.history, change engine))
      (Routine.transact fun _ ledger =>
        ((finishedSince ledger.log).rtake limit, ledger.note event)) (EventLog event) :=
  .transact (fun _ _ => [event]) (.inl ⟨rfl, rfl⟩) (fun _ _ _ hagrees => h _ _ hagrees)
    (fun _ _ _ _ => rfl) (fun _ _ _ hagrees => hagrees.history) (fun _ _ _ _ => .inr rfl)
    fun _ _ _ _ => .inr rfl

theorem inStep_branches {σ τ : Type} {R : σ → τ → Prop} {log : τ → List Event} {size : Nat}
    {ps : Fin size → Routine σ (Except φ α)} {qs : Fin size → Routine τ (Except φ α)}
    {S : Fin size → LogSpec Event (Except φ α)}
    (h : ∀ i, Routine.InStep R log (ps i) (qs i) (S i)) (i : Nat) (p : Routine σ (Except φ α))
    (q : Routine τ (Except φ α)) (hp : (List.ofFn ps)[i]? = some p)
    (hq : (List.ofFn qs)[i]? = some q) :
    Routine.InStep R log p q fun entries result => ∀ hi : i < size, S ⟨i, hi⟩ entries result := by
  by_cases hi : i < size
  · rw [List.getElem?_ofFn, dif_pos hi] at hp hq
    rw [← Option.some.inj hp, ← Option.some.inj hq]
    exact (h ⟨i, hi⟩).mono fun entries result hS _ => hS
  · rw [List.getElem?_ofFn, dif_neg hi] at hp
    cases hp

/-- A program runs on the engine and on the ledger in step, and writes one of its logs. -/
theorem inStep_program (p : Program ω φ α) (site : Site) :
    Routine.InStep (Agrees limit) Ledger.log (p.on platform site)
      (p.on (Ledger.platform limit) site) (p.Logs site) := by
  induction p generalizing site with
  | done result => exact .done ⟨rfl, by simp⟩ ⟨rfl, by simp⟩
  | invoke activity call options next ih =>
    exact (inStep_attempts (tracks_agrees limit) site (activity call) call options 0 (words32 - 1)
      (by decide)).bind fun outcome => ih outcome _
  | look next ih =>
    exact (inStep_histories fun _ _ h => h.note rfl).bind fun records => ih records _
  | take next ih =>
    exact (inStep_histories fun _ _ h => h.take site).bind fun records => ih records _
  | all size branches next ihb ih =>
    refine Routine.InStep.bind ?_ fun result => ih result _
    have hsides := FanOut.inStep_allOrFirstFailure (by simp)
      (inStep_branches fun i => ihb i (.branch i :: site))
    rwa [List.length_ofFn] at hsides
  | settle size branches next ihb ih =>
    refine Routine.InStep.bind ?_ fun report => ih report _
    have hsides := FanOut.inStep_settleAll (by simp)
      (inStep_branches fun i => ihb i (.branch i :: site))
    rwa [List.length_ofFn] at hsides

end Engine

/-- How many histories are shown does not matter to what does not look at them. -/
theorem Ledger.show_bind_eq {β : Type} (limit limit' : Nat) (event : Event)
    {next next' : List AttemptRecord → Routine (Ledger ω) β}
    (h : ∀ records records', next records = next' records') :
    (Routine.transact fun _ ledger =>
        ((finishedSince ledger.log).rtake limit, ledger.note event)).bind next =
      (Routine.transact fun _ ledger =>
        ((finishedSince ledger.log).rtake limit', ledger.note event)).bind next' := by
  simp only [Routine.transact, Routine.bind]
  congr 1
  funext clock ledger
  exact h _ _

/-- On a ledger the limit does not matter to a blind program. -/
theorem Ledger.on_eq_of_blind (limit limit' : Nat) {p : Program ω φ α} (h : p.Blind) (site : Site) :
    p.on (platform limit) site = p.on (platform limit') site := by
  induction p generalizing site with
  | done result => rfl
  | invoke activity call options next ih =>
    simp only [Program.on, platform]
    congr 1
    funext outcome
    exact ih outcome (h outcome) _
  | look next ih =>
    obtain ⟨hblind, hrest⟩ := h
    refine show_bind_eq limit limit' (.looked site) ?_
    intro records records'
    rw [hblind records records']
    exact ih _ (hrest _) _
  | take next ih =>
    obtain ⟨hblind, hrest⟩ := h
    refine show_bind_eq limit limit' (.took site) ?_
    intro records records'
    rw [hblind records records']
    exact ih _ (hrest _) _
  | all size branches next ihb ih =>
    obtain ⟨hbranches, hrest⟩ := h
    simp only [Program.on, fun i => ihb i (hbranches i) (.branch i :: site),
      fun result => ih result (hrest result) (.next :: site)]
  | settle size branches next ihb ih =>
    obtain ⟨hbranches, hrest⟩ := h
    simp only [Program.on, fun i => ihb i (hbranches i) (.branch i :: site),
      fun report => ih report (hrest report) (.next :: site)]

namespace Engine

/-- A program cannot tell an engine from a ledger that forgets nothing, on which it writes one
of its logs. At any time the engine keeps the last of the histories of the invocations that
have finished since the histories were last taken, as many as its limit allows. Each is the
history of an invocation that has ended, and nothing happens to an invocation after its end. As
soon as anything behind a fan-out happens, nothing inside it happens any more: an invocation
that was cancelled neither begins an attempt nor finishes. The limit makes no difference but to
those who look. -/
theorem run_program (p : Program ω φ α) (limit : Nat) (world : ω) (clock : Clock) :
    let finish := (p.on platform []).run clock (start limit world)
    let noted := (p.on (Ledger.platform limit) []).run clock (Ledger.start world)
    let log := noted.state.log
    (finish.value = noted.value ∧ finish.clock = noted.clock ∧
      finish.state.world = noted.state.world ∧ p.Logs [] log (some finish.value)) ∧
    (finish.state.history = (finishedSince log).rtake limit ∧
      finish.state.history.length = min limit (finishedSince log).length ∧
      ∀ record ∈ finish.state.history, ∃ site call outcome,
        .finished site call record outcome ∈ log ∧ record.stage = .closing outcome) ∧
    (∀ before e after, log = before ++ e :: after →
      (e.IsEnd → ∀ later ∈ after, later.site ≠ e.site) ∧
      ∀ scope, e.Behind scope → ∀ later ∈ after, ¬ later.Inside scope) ∧
    (p.Blind → ∀ limit',
      ((p.on platform []).run clock (start limit' world)).value = finish.value) := by
  intro finish noted log
  obtain ⟨hvalue, hclock, hagrees, entries, hlog, hlogs⟩ :=
    (inStep_program p []).run clock (agrees_start limit world)
  obtain rfl : log = entries := hlog
  have horder : log.Pairwise Event.Permits := hlogs.orderly.order
  have hhistory : finish.state.history = (finishedSince log).rtake limit := hagrees.history
  refine ⟨⟨hvalue, hclock, hagrees.world, hvalue ▸ hlogs⟩, ⟨hhistory, ?_, ?_⟩, ?_, ?_⟩
  · rw [hhistory, List.rtake, List.length_drop]
    omega
  · intro record hrecord
    rw [hhistory] at hrecord
    exact hagrees.ended record (List.mem_of_mem_drop hrecord)
  · intro before e after hsplit
    rw [hsplit, List.pairwise_append, List.pairwise_cons] at horder
    have hpermits := horder.2.1.1
    exact ⟨fun hend later hlater => (hpermits later hlater).2 hend,
      fun scope hbehind later hlater => ((hpermits later hlater).1 scope hbehind).1⟩
  · intro hblind limit'
    obtain ⟨hvalue', -⟩ := (inStep_program p []).run clock (agrees_start limit' world)
    rw [hvalue', Ledger.on_eq_of_blind limit' limit hblind]
    exact hvalue.symm

/-- Of two invocations side by side the short one fails. The long one is cancelled in its first
attempt, and nothing tells of it once the invocation behind the two has begun. -/
theorem run_program_cancelled :
    let call (name : String) : Call := ⟨default, "ingest", name, []⟩
    let work (name : String) (millis : Nat) (outcome : Outcome)
        (next : Outcome → Program Unit Failure Json) : Program Unit Failure Json :=
      .invoke (fun _ => (Routine.sleep millis).map fun _ => outcome) (call name)
        ⟨.seconds 1, .standard⟩ next
    let program : Program Unit Failure Json :=
      work "first" 5 (.ok .null) fun _ =>
        .all 2 (fun i => if i = 0 then work "long" 50 (.ok .null) .done
          else work "short" 10 (.error (.diagnosed (.resourceExhausted "full"))) .done) fun _ =>
            work "last" 100 (.ok .null) .done
    let finish (limit : Nat) := (program.on platform []).run ⟨0, 0⟩ (start limit ())
    let noted := (program.on (Ledger.platform 2) []).run ⟨0, 0⟩ (Ledger.start ())
    program.Blind ∧
      (finish 2).state.history = [⟨"short", 1, [.pending, .attempting, .failedTerminal]⟩,
        ⟨"last", 1, [.pending, .attempting, .succeeded]⟩] ∧
      (noted.state.log.filter fun e => e.site = [.branch 0, .next]) =
        [.began [.branch 0, .next] (call "long") 1] ∧
      (∃ before after,
        noted.state.log = before ++ .began [.next, .next] (call "last") 1 :: after ∧
          ∀ later ∈ after, ¬ later.Inside [.next]) ∧
      ∀ limit, (finish limit).value = (finish 2).value := by
  intro call work program finish noted
  have hblind : program.Blind := by
    refine fun _ => ⟨fun i => ?_, fun _ _ => trivial⟩
    by_cases hi : i = 0
    · simp only [hi, if_true]
      exact fun _ => trivial
    · simp only [hi, if_false]
      exact fun _ => trivial
  obtain ⟨-, -, hafter, hvalue⟩ := run_program program 2 () ⟨0, 0⟩
  have hsplit : noted.state.log = noted.state.log.take 5 ++
      .began [.next, .next] (call "last") 1 :: noted.state.log.drop 6 := by decide +kernel
  have hbehind := (hafter _ _ _ hsplit).2 [.next] (List.suffix_refl [Way.next, Way.next])
  exact ⟨hblind, by decide +kernel, by decide +kernel, ⟨_, _, hsplit, hbehind⟩, hvalue hblind⟩

end Engine

end ActivityFlow
