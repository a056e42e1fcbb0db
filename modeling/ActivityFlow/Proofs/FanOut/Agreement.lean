import ActivityFlow.Proofs.FanOut.FirstFailure
import ActivityFlow.Proofs.FanOut.Results

/-!
# Agreement of the two fan-outs

A policy that passes over every ending of a feed reads the feed to its end, and then decides on
what it remembers. The endings come in the order of time, so what is remembered has to be put
into the order of the input again; that this loses and repeats nothing is the same fact for both
fan-outs. The one that waits for everything reports the results of the futures, and the other one
has all their values exactly if there is no failure in this report.
-/
namespace ActivityFlow

variable {σ α β φ τ : Type}

namespace Feed

variable {effect : Nat → σ → σ} {feed : Feed σ (Nat × α)} {now : Nat}
variable {S : List (Ending α) → Prop} (r : Reader σ (Nat × α) β τ)

/-- The policy stops at none of the endings. -/
def Reader.PassesAll (seen : τ) (endings : List (Ending α)) : Prop :=
  ∀ before e later, endings = before ++ e :: later →
    r.stop? (r.memory seen before) (e.place, e.value) = none

/-- The policy passes over the first ending and over those behind it. -/
theorem Reader.PassesAll.of_cons {seen : τ} {e : Ending α} {later : List (Ending α)}
    (h : r.PassesAll seen (e :: later)) :
    r.stop? seen (e.place, e.value) = none ∧
      r.PassesAll (r.remember seen (e.place, e.value)) later := by
  refine ⟨h [] e later rfl, ?_⟩
  rintro before other rest rfl
  exact h (e :: before) other rest rfl

/-- A policy that stops nowhere decides at the end of the feed, on all that it remembers. -/
theorem Emits.run_read_over (h : Emits effect feed now S) (finish : τ → β)
    (hover : ∀ seen, r.read seen .over = .done (finish seen)) (seen : τ) (clock : Clock)
    (hclock : clock.now = now) (state : σ) :
    ∃ endings, S endings ∧ (r.PassesAll seen endings →
      ((r.read seen feed).run clock state).value = finish (r.memory seen endings)) := by
  induction h generalizing seen clock state with
  | ended none => exact ⟨[], none, fun _ => by rw [hover]; rfl⟩
  | @emit now place value next S still rest ih =>
    obtain ⟨later, hS, hlater⟩ := ih (r.remember seen (place, value)) clock hclock state
    refine ⟨_, hS, fun hpasses => ?_⟩
    obtain ⟨hfirst, hrest⟩ := hpasses.of_cons
    rw [r.read_emit, hfirst]
    exact hlater hrest
  | @finish now place value next S rest ih =>
    obtain ⟨later, hS, hlater⟩ := ih (r.remember seen (place, value))
      ⟨clock.now, clock.turn + 1⟩ hclock (effect place state)
    refine ⟨_, hS, fun hpasses => ?_⟩
    obtain ⟨hfirst, hrest⟩ := hpasses.of_cons
    rw [r.read_act, r.read_emit, hfirst]
    exact hlater hrest
  | look rest ih =>
    rw [r.read_act]
    exact ih clock state hclock seen ⟨clock.now, clock.turn + 1⟩ hclock state
  | @pause now due turn next S later rest ih =>
    rw [r.read_pause]
    exact ih seen ⟨max clock.now due, clock.turn⟩ (by simp; omega) state

/-! ## What is remembered -/

theorem memory_everything (endings : List (Ending α)) :
    (everything (σ := σ)).memory [] endings = events endings := by
  have hall : ∀ seen, (everything (σ := σ)).memory seen endings = seen ++ events endings := by
    induction endings with
    | nil => simp [Reader.memory, events]
    | cons e rest ih =>
      intro seen
      have hstep : (everything (σ := σ)).memory seen (e :: rest) =
          (everything (σ := σ)).memory (seen ++ [(e.place, e.value)]) rest := rfl
      rw [hstep, ih]
      simp [events]
  exact hall []

/-- The policy of a small fan-out remembers the values of endings without a failure. -/
theorem memory_earliest {endings : List (Ending (Except φ α))}
    (h : ∀ e ∈ endings, ∃ value, e.value = .ok value) (seen : List (Nat × α)) :
    ∃ passed, (earliest (σ := σ)).memory seen endings = seen ++ passed ∧
      events endings = passed.map fun e => (e.1, .ok e.2) := by
  induction endings generalizing seen with
  | nil => exact ⟨[], by simp [Reader.memory], rfl⟩
  | cons e rest ih =>
    obtain ⟨value, hvalue⟩ := h e (List.mem_cons_self ..)
    obtain ⟨passed, hmemory, hevents⟩ :=
      ih (fun e he => h e (List.mem_cons_of_mem _ he)) (seen ++ [(e.place, value)])
    have hstep : (earliest (σ := σ)).memory seen (e :: rest) =
        (earliest (σ := σ)).memory (seen ++ [(e.place, value)]) rest := by
      simp [Reader.memory, earliest, hvalue]
    refine ⟨(e.place, value) :: passed, by rw [hstep, hmemory]; simp, ?_⟩
    rw [List.map_cons, ← hevents]
    simp [events, hvalue]

theorem passesAll_everything (endings : List (Ending α)) :
    (everything (σ := σ)).PassesAll [] endings := fun _ _ _ _ => rfl

/-- A small fan-out does not stop unless there is a failure. -/
theorem passesAll_earliest {endings : List (Ending (Except φ α))}
    (h : ∀ e ∈ endings, ∃ value, e.value = .ok value) (seen : List (Nat × α)) :
    (earliest (σ := σ)).PassesAll seen endings := by
  rintro before e later rfl
  obtain ⟨value, hvalue⟩ := h e (by simp)
  simp [earliest, hvalue]

/-- A large fan-out does not stop unless there is a failure. -/
theorem passesAll_inInputOrder {endings : List (Ending (Except φ α))}
    (h : ∀ e ∈ endings, ∃ value, e.value = .ok value) :
    (inInputOrder (σ := σ)).PassesAll [] endings := by
  rintro before e later rfl
  rw [stop?_inInputOrder]
  cases hsettled : settledFailure? (events (before ++ [e])) with
  | none => rfl
  | some failure =>
    obtain ⟨place, hlookup⟩ := exists_lookup_of_firstSettledFailure hsettled
    obtain ⟨x, hx, -, hfail⟩ := mem_of_lookup_events hlookup
    have hmem : x ∈ before ++ e :: later := by
      rw [List.append_cons]
      exact List.mem_append_left _ hx
    obtain ⟨value, hvalue⟩ := h x hmem
    rw [hvalue] at hfail
    cases hfail

end Feed

namespace FanOut

variable {futures : List (Future σ φ α)}

/-! ## The order of the input -/

/-- The endings of futures, put into the order of the input, have the results of the futures. -/
theorem inOrder_events {start : Nat} {endings : List (Feed.Ending (Except φ α))}
    (hperm : endings.Perm (Future.endingsFrom start 0 futures)) :
    inOrder futures.length (Feed.events endings) = futures.map Future.result := by
  have hlookup : ∀ place (hplace : place < futures.length),
      (Feed.events endings).lookup place = some futures[place].result := by
    intro place hplace
    have hget := List.getElem?_eq_getElem hplace
    have hending : (⟨start + futures[place].duration, place, futures[place].result⟩ :
        Feed.Ending (Except φ α)) ∈ endings :=
      hperm.mem_iff.mpr (Future.mem_endingsFrom_zero.mpr ⟨_, hget, rfl, rfl⟩)
    obtain ⟨value, hvalue⟩ := Feed.exists_lookup_events hending
    obtain ⟨e, he, heplace, hevalue⟩ := Feed.mem_of_lookup_events hvalue
    obtain ⟨future, hfuture, -, hresult⟩ := Future.mem_endingsFrom_zero.mp (hperm.mem_iff.mp he)
    rw [heplace, hget] at hfuture
    rw [hvalue, ← hevalue, hresult, ← Option.some.inj hfuture]
  obtain ⟨hlength, hget⟩ := getElem?_inOrder (n := futures.length) fun place hplace => by
    rw [hlookup place hplace]
    rfl
  refine List.ext_getElem? fun place => ?_
  by_cases hplace : place < futures.length
  · rw [hget place hplace, hlookup place hplace, List.getElem?_map,
      List.getElem?_eq_getElem hplace]
    rfl
  · rw [List.getElem?_eq_none (by omega), List.getElem?_eq_none (by simpa using hplace)]

theorem inOrder_map (n : Nat) (f : α → β) (events : List (Nat × α)) :
    inOrder n (events.map fun e => (e.1, f e.2)) = (inOrder n events).map f := by
  rw [inOrder, inOrder, List.map_filterMap]
  refine List.filterMap_congr ?_
  intro place _
  exact lookup_map f events place

/-! ## The two fan-outs -/

/-- A fan-out that waits for everything reports the results of its futures. -/
theorem value_settleAll (clock : Clock) (state : σ) :
    ((settleAll (futures.map Future.routine)).run clock state).value =
      Report.ofResults 0 (futures.map Future.result) := by
  obtain ⟨endings, ⟨hperm, -⟩, hread⟩ :=
    (Feed.emits_ofRoutines (precedence futures.length) clock.now futures).run_read_over
      Feed.everything id (fun _ => rfl) [] clock rfl state
  have hvalue := hread (Feed.passesAll_everything endings)
  rw [Feed.memory_everything] at hvalue
  simp only [Feed.everything] at hvalue
  rw [settleAll, Routine.run_map, List.length_map, hvalue]
  exact congrArg (Report.ofResults 0) (inOrder_events hperm)

/-- If no future fails, a fan-out of any size ends with all values in the order of the input. -/
theorem value_allOrFirstFailure_ok {values : List α}
    (h : futures.map Future.result = values.map .ok) (clock : Clock) (state : σ) :
    ((allOrFirstFailure (futures.map Future.routine)).run clock state).value = .ok values := by
  have hok : ∀ {endings : List (Feed.Ending (Except φ α))},
      endings.Perm (Future.endingsFrom clock.now 0 futures) →
      ∀ e ∈ endings, ∃ value, e.value = .ok value := by
    intro endings hperm e he
    obtain ⟨future, hget, -, hresult⟩ := Future.mem_endingsFrom_zero.mp (hperm.mem_iff.mp he)
    have hmem : future.result ∈ values.map (.ok : α → Except φ α) := by
      rw [← h]
      exact List.mem_map_of_mem (List.mem_of_getElem? hget)
    obtain ⟨value, -, hvalue⟩ := List.mem_map.mp hmem
    exact ⟨value, hresult.trans hvalue.symm⟩
  by_cases hsmall : futures.length ≤ smallSize
  · obtain ⟨endings, ⟨hperm, -⟩, hread⟩ :=
      (Feed.emits_ofRoutines (precedence futures.length) clock.now futures).run_read_over
        Feed.earliest .ok (fun _ => rfl) [] clock rfl state
    obtain ⟨passed, hmemory, hevents⟩ := Feed.memory_earliest (σ := σ) (hok hperm) []
    have hvalue := hread (Feed.passesAll_earliest (hok hperm) [])
    rw [hmemory, List.nil_append] at hvalue
    simp only [Feed.earliest] at hvalue
    have hpassed : inOrder futures.length passed = values := by
      have horder := inOrder_events hperm
      rw [hevents, inOrder_map, h] at horder
      exact List.map_injective_iff.mpr (fun _ _ heq => Except.ok.inj heq) horder
    simp only [allOrFirstFailure, List.length_map, if_pos hsmall, Routine.run_map, hvalue,
      Except.map, hpassed]
  · obtain ⟨endings, ⟨hperm, -⟩, hread⟩ :=
      (Feed.emits_ofRoutines (precedence futures.length) clock.now futures).run_read_over
        Feed.inInputOrder .ok (fun _ => rfl) [] clock rfl state
    have hvalue := hread (Feed.passesAll_inInputOrder (hok hperm))
    rw [Feed.memory_inInputOrder, List.nil_append] at hvalue
    simp only [Feed.inInputOrder] at hvalue
    have hsuccesses : (values.map (.ok : α → Except φ α)).filterMap success? = values := by
      rw [List.filterMap_map]
      exact List.filterMap_some
    simp only [allOrFirstFailure, List.length_map, if_neg hsmall, Routine.run_map, hvalue,
      Except.map, inOrder_events hperm, h, hsuccesses]

/-- If a future fails, a fan-out of any size ends with a failure. -/
theorem value_allOrFirstFailure_error
    (h : ∃ future ∈ futures, ∃ failure, future.result = .error failure) (clock : Clock)
    (state : σ) :
    ∃ failure,
      ((allOrFirstFailure (futures.map Future.routine)).run clock state).value =
        .error failure := by
  by_cases hsmall : futures.length ≤ smallSize
  · obtain ⟨place, future, failure, hearliest⟩ := exists_isEarliestFailure h
    exact ⟨failure, (endsWith_of_small hsmall hearliest clock state).value⟩
  · obtain ⟨place, future, failure, hfirst⟩ := exists_isFirstInInput h
    obtain ⟨elapsed, -, hends⟩ := endsWith_of_large hsmall hfirst clock state
    exact ⟨failure, hends.value⟩

/-! ## Reports -/

/-- What can be taken from the elements of a list, with the places of these elements. -/
def placed (take? : α → Option β) (xs : List α) : List (Nat × β) :=
  xs.zipIdx.filterMap fun e => (take? e.1).map fun value => (e.2, value)

theorem mem_placed {take? : α → Option β} {xs : List α} {place : Nat} {value : β} :
    (place, value) ∈ placed take? xs ↔ ∃ x, xs[place]? = some x ∧ take? x = some value := by
  rw [placed, List.mem_filterMap]
  constructor
  · rintro ⟨⟨x, i⟩, hmem, htake⟩
    obtain ⟨other, hother, heq⟩ := Option.map_eq_some_iff.mp htake
    obtain ⟨rfl, rfl⟩ := Prod.mk.inj heq
    exact ⟨x, List.mem_zipIdx_iff_getElem?.mp hmem, hother⟩
  · rintro ⟨x, hget, htake⟩
    exact ⟨(x, place), List.mem_zipIdx_iff_getElem?.mpr hget, by simp [htake]⟩

theorem map_fst_placed (take? : α → Option β) (xs : List α) :
    (placed take? xs).map Prod.fst =
      (xs.zipIdx.filter fun e => (take? e.1).isSome).map Prod.snd := by
  rw [placed, List.map_filterMap, ← List.filterMap_eq_filter, List.map_filterMap]
  refine List.filterMap_congr ?_
  intro e _
  cases h : take? e.1 <;> simp [Option.guard, h]

theorem map_snd_zipIdx (xs : List α) : xs.zipIdx.map Prod.snd = List.range xs.length := by
  rw [List.zipIdx_map_snd, List.range_eq_range']

/-- The places are in the order of the input, and there is none twice. -/
theorem pairwise_placed (take? : α → Option β) (xs : List α) :
    ((placed take? xs).map Prod.fst).Pairwise (· < ·) := by
  have hplaces : (xs.zipIdx.map Prod.snd).Pairwise (· < ·) := by
    rw [map_snd_zipIdx]
    exact List.pairwise_lt_range
  rw [map_fst_placed]
  exact hplaces.sublist (List.filter_sublist.map Prod.snd)

theorem map_snd_placed (take? : α → Option β) (xs : List α) :
    (placed take? xs).map Prod.snd = xs.filterMap take? := by
  conv_rhs => rw [← List.zipIdx_map_fst 0 xs]
  rw [placed, List.map_filterMap, List.filterMap_map]
  refine List.filterMap_congr ?_
  intro e _
  cases h : take? e.1 <;> simp [h]

theorem length_placed (take? : α → Option β) (xs : List α) :
    (placed take? xs).length = xs.countP fun x => (take? x).isSome := by
  rw [← List.length_map Prod.snd, map_snd_placed, List.length_filterMap_eq_countP]

/-- What is taken from an element comes after what is taken from those before it. -/
theorem getElem?_placed {take? : α → Option β} {x : α} {value : β} (htake : take? x = some value)
    (front back : List α) :
    (placed take? (front ++ x :: back))[front.countP fun x => (take? x).isSome]? =
      some (front.length, value) := by
  have hsplit : placed take? (front ++ x :: back) = placed take? front ++
      ((x :: back).zipIdx front.length).filterMap fun e =>
        (take? e.1).map fun value => (e.2, value) := by
    rw [placed, List.zipIdx_append, List.filterMap_append, Nat.zero_add]
    rfl
  rw [hsplit, ← length_placed, List.getElem?_append_right le_rfl, Nat.sub_self, List.zipIdx_cons,
    List.filterMap_cons, htake]
  rfl

theorem eq_countP_of_placed {take? : α → Option β} {xs : List α} {index place : Nat} {value : β}
    (h : (placed take? xs)[index]? = some (place, value)) :
    index = (xs.take place).countP fun x => (take? x).isSome := by
  obtain ⟨x, hx, htake⟩ := mem_placed.mp (List.mem_of_getElem? h)
  obtain ⟨hplace, rfl⟩ := List.getElem?_eq_some_iff.mp hx
  have hget := getElem?_placed htake (xs.take place) (xs.drop (place + 1))
  rw [List.getElem_cons_drop, List.take_append_drop,
    List.length_take_of_le (Nat.le_of_lt hplace)] at hget
  have hnodup : (placed take? xs).Nodup := by
    refine (pairwise_placed take? xs).of_map Prod.fst ?_
    rintro e _ hlt rfl
    exact Nat.lt_irrefl _ hlt
  exact (List.getElem?_inj (List.getElem?_eq_some_iff.mp h).1 hnodup).mp (h.trans hget.symm)

def failure? : Except φ α → Option φ
  | .ok _ => none
  | .error failure => some failure

@[simp] theorem success?_eq_some {result : Except φ α} {value : α} :
    success? result = some value ↔ result = .ok value := by
  cases result <;> simp [success?]

@[simp] theorem failure?_eq_some {result : Except φ α} {failure : φ} :
    failure? result = some failure ↔ result = .error failure := by
  cases result <;> simp [failure?]

namespace Report

/-- A report accounts for results: it has each of them at its place, and nothing else. -/
structure Accounts (report : Report φ α) (results : List (Except φ α)) : Prop where
  success : ∀ place value,
    (place, value) ∈ report.successes ↔ results[place]? = some (.ok value)
  failure : ∀ place failure,
    (place, failure) ∈ report.failures ↔ results[place]? = some (.error failure)
  successes_ascend : (report.successes.map Prod.fst).Pairwise (· < ·)
  failures_ascend : (report.failures.map Prod.fst).Pairwise (· < ·)
  places : (report.successes.map Prod.fst ++ report.failures.map Prod.fst).Perm
    (List.range results.length)

theorem ofResults_zero (results : List (Except φ α)) :
    ofResults 0 results = ⟨placed success? results, placed failure? results⟩ := by
  have hfrom : ∀ index, ofResults index results =
      ⟨(results.zipIdx index).filterMap fun e => (success? e.1).map (e.2, ·),
        (results.zipIdx index).filterMap fun e => (failure? e.1).map (e.2, ·)⟩ := by
    induction results with
    | nil => exact fun _ => rfl
    | cons result rest ih => cases result <;> simp [ofResults, ih, success?, failure?]
  exact hfrom 0

theorem accounts_ofResults (results : List (Except φ α)) :
    (ofResults 0 results).Accounts results := by
  rw [ofResults_zero]
  refine ⟨by simp [mem_placed], by simp [mem_placed], pairwise_placed _ _, pairwise_placed _ _, ?_⟩
  have hfailed : ∀ result : Except φ α, (failure? result).isSome = !(success? result).isSome := by
    rintro (_ | _) <;> rfl
  simp only [map_fst_placed, hfailed, ← List.map_append, ← map_snd_zipIdx]
  exact (List.filter_append_perm _ _).map Prod.snd

theorem Accounts.total {report : Report φ α} {results : List (Except φ α)}
    (h : report.Accounts results) : report.total = results.length := by
  have hlength := h.places.length_eq
  simpa [Report.total] using hlength

theorem ofResults_map_ok (index : Nat) (values : List α) :
    (ofResults index (values.map (.ok : α → Except φ α))).failures = [] ∧
      (ofResults index (values.map (.ok : α → Except φ α))).successes.map Prod.snd = values := by
  induction values generalizing index with
  | nil => exact ⟨rfl, rfl⟩
  | cons value rest ih =>
    obtain ⟨hnone, hvalues⟩ := ih (index + 1)
    exact ⟨hnone, congrArg (value :: ·) hvalues⟩

theorem isComplete_ofResults_iff {results : List (Except φ α)} {values : List α} :
    ((ofResults 0 results).isComplete = true ∧
      values = (ofResults 0 results).successes.map Prod.snd) ↔ results = values.map .ok := by
  constructor
  · rintro ⟨hcomplete, rfl⟩
    have hnone : (ofResults 0 results).failures = [] := List.isEmpty_iff.mp hcomplete
    obtain ⟨values, rfl⟩ : ∃ values : List α, results = values.map .ok := by
      refine exists_map_ok ?_
      intro result hmem
      obtain ⟨place, hget⟩ := List.mem_iff_getElem?.mp hmem
      cases result with
      | ok value => exact ⟨value, rfl⟩
      | error failure =>
        have hfailure := ((accounts_ofResults results).failure place failure).mpr hget
        rw [hnone] at hfailure
        cases hfailure
    rw [(ofResults_map_ok 0 values).2]
  · rintro rfl
    obtain ⟨hnone, hvalues⟩ := ofResults_map_ok (φ := φ) 0 values
    exact ⟨List.isEmpty_iff.mpr hnone, hvalues.symm⟩

end Report

/-- Two fan-outs over the same futures, begun at any two times, agree. The one that waits for
everything reports every place of the input exactly once; the other one ends with values exactly
if this report is complete, and these are the values of the report in the order of the input. -/
theorem settleAll_accounts_and_allOrFirstFailure_agrees (futures : List (Future σ φ α))
    (clock clock' : Clock) (state state' : σ) :
    ∃ report, ((settleAll (futures.map Future.routine)).run clock state).value = report ∧
      report.Accounts (futures.map Future.result) ∧ report.total = futures.length ∧
      ∀ values,
        ((allOrFirstFailure (futures.map Future.routine)).run clock' state').value = .ok values ↔
          report.isComplete = true ∧ values = report.successes.map Prod.snd := by
  have haccounts := Report.accounts_ofResults (futures.map Future.result)
  refine ⟨_, value_settleAll clock state, haccounts, by simpa using haccounts.total, ?_⟩
  intro values
  rw [Report.isComplete_ofResults_iff]
  constructor
  · intro hok
    obtain ⟨others, hothers⟩ : ∃ others : List α, futures.map Future.result = others.map .ok := by
      refine exists_map_ok ?_
      intro result hmem
      obtain ⟨future, hfuture, rfl⟩ := List.mem_map.mp hmem
      cases hresult : future.result with
      | ok value => exact ⟨value, rfl⟩
      | error failure =>
        obtain ⟨first, herror⟩ :=
          value_allOrFirstFailure_error ⟨future, hfuture, failure, hresult⟩ clock' state'
        rw [hok] at herror
        cases herror
    have hvalues := value_allOrFirstFailure_ok hothers clock' state'
    rw [hok] at hvalues
    rw [hothers, Except.ok.inj hvalues]
  · intro hresults
    exact value_allOrFirstFailure_ok hresults clock' state'

end FanOut

end ActivityFlow
