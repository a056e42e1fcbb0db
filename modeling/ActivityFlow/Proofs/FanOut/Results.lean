import ActivityFlow.Proofs.FanOut.InStep
import Mathlib.Data.List.Flatten
import Mathlib.Data.List.Induction

/-!
# The results of a fan-out

What a fan-out ends with is made of what its routines end with: all values in the order of the
input, or a failure of one of them, or a report of everything. The log of the fan-out is that of
its routines side by side, each cut off at most by the end of the whole.
-/
namespace ActivityFlow

variable {σ τ ε α φ : Type}

namespace Feed

/-- A small fan-out ends with all values, or with a failure that was emitted. -/
theorem decides_earliest {seen : List (Nat × α)} {events : List (Nat × Except φ α)} {closed : Bool}
    {result : Except φ (List (Nat × α))}
    (h : (earliest (σ := τ)).Decides .ok seen events closed result) :
    (∃ passed, events = passed.map (fun e => (e.1, .ok e.2)) ∧ closed = true ∧
      result = .ok (seen ++ passed)) ∨
    ∃ place failure, (place, .error failure) ∈ events ∧ result = .error failure := by
  induction h with
  | ended => exact .inl ⟨[], rfl, rfl, by simp⟩
  | @stop seen event value hstop =>
    obtain ⟨place, outcome⟩ := event
    cases outcome with
    | ok value => simp [earliest] at hstop
    | error failure =>
      have hvalue : Except.error failure = value := by simpa [earliest] using hstop
      exact .inr ⟨place, failure, by simp, hvalue.symm⟩
  | @pass seen event events closed value hpass rest ih =>
    obtain ⟨place, outcome⟩ := event
    cases outcome with
    | error failure => simp [earliest] at hpass
    | ok a =>
      rcases ih with ⟨passed, hevents, hover, hvalue⟩ | ⟨other, failure, hmem, hvalue⟩
      · refine .inl ⟨(place, a) :: passed, by simp [hevents], hover, ?_⟩
        simp [hvalue, earliest]
      · exact .inr ⟨other, failure, List.mem_cons_of_mem _ hmem, hvalue⟩

theorem exists_lookup_of_firstSettledFailure {seen : List (Nat × Except φ α)} {place fuel : Nat}
    {failure : φ} (h : firstSettledFailure seen place fuel = some failure) :
    ∃ i, seen.lookup i = some (.error failure) := by
  induction fuel generalizing place with
  | zero => simp [firstSettledFailure] at h
  | succ n ih =>
    rw [firstSettledFailure] at h
    cases hlookup : seen.lookup place with
    | none => simp [hlookup] at h
    | some result =>
      cases result with
      | ok value => exact ih (by simpa [hlookup] using h)
      | error e =>
        obtain rfl : e = failure := by simpa [hlookup] using h
        exact ⟨place, hlookup⟩

/-- A large fan-out ends with all results, among which there is no settled failure, or with a
failure that was emitted. -/
theorem decides_inInputOrder {seen events : List (Nat × Except φ α)} {closed : Bool}
    {result : Except φ (List (Nat × Except φ α))}
    (h : (inInputOrder (σ := τ)).Decides .ok seen events closed result) :
    (closed = true ∧ result = .ok (seen ++ events) ∧
      (events ≠ [] → settledFailure? (seen ++ events) = none)) ∨
    ∃ place failure, (place, .error failure) ∈ seen ++ events ∧ result = .error failure := by
  induction h with
  | ended => exact .inl ⟨rfl, by simp, by simp⟩
  | @stop seen event value hstop =>
    cases hsettled : settledFailure? (seen ++ [event]) with
    | none => simp [inInputOrder, hsettled] at hstop
    | some failure =>
      have hvalue : Except.error failure = value := by simpa [inInputOrder, hsettled] using hstop
      obtain ⟨place, hlookup⟩ := exists_lookup_of_firstSettledFailure hsettled
      obtain ⟨front, back, hsplit, -⟩ := List.lookup_eq_some_iff.mp hlookup
      refine .inr ⟨place, failure, ?_, hvalue.symm⟩
      simp [hsplit]
  | @pass seen event events closed value hpass rest ih =>
    have hmemory : (inInputOrder (σ := τ)).remember seen event = seen ++ [event] := rfl
    have hnone : settledFailure? (seen ++ [event]) = none := by
      simpa [inInputOrder] using hpass
    rw [hmemory, List.append_assoc, List.singleton_append] at ih
    rcases ih with ⟨hover, hvalue, hlast⟩ | hfailure
    · refine .inl ⟨hover, hvalue, fun _ => ?_⟩
      cases events with
      | nil => exact hnone
      | cons e events => exact hlast (by simp)
    · exact .inr hfailure

theorem ok_of_settledFailure?_eq_none {events : List (Nat × Except φ α)} {n : Nat}
    (hall : ∀ i < n, (events.lookup i).isSome) (h : settledFailure? events = none) (i : Nat)
    (hi : i < n) : ∃ value, events.lookup i = some (.ok value) := by
  have hlength : n ≤ events.length := by
    have hsub : List.range n ⊆ events.map Prod.fst := by
      intro place hplace
      obtain ⟨e, he, heq⟩ := List.lookup_isSome_iff.mp (hall place (List.mem_range.mp hplace))
      refine List.mem_map.mpr ⟨e, he, ?_⟩
      simpa using Eq.symm (by simpa using heq)
    simpa using (List.subperm_of_subset List.nodup_range hsub).length_le
  -- The first failure in the order of the input would be settled.
  induction i using Nat.strongRecOn with
  | ind i ih =>
    obtain ⟨result, hresult⟩ := Option.isSome_iff_exists.mp (hall i hi)
    cases result with
    | ok value => exact ⟨value, hresult⟩
    | error failure =>
      have hsome : settledFailure? events = some failure := by
        refine firstSettledFailure_eq_some (m := i) 0 _ (by omega) (by simpa using hresult) ?_
        intro j hj
        simpa using ih j hj (by omega)
      rw [h] at hsome
      cases hsome

/-- A fan-out that waits for everything collects all events. -/
def everything : Reader σ (Nat × α) (List (Nat × α)) (List (Nat × α)) where
  read := collect
  stop? _ _ := none
  remember seen event := seen ++ [event]
  read_emit _ _ _ := rfl
  read_pause _ _ _ _ := rfl
  read_act _ _ _ := rfl

theorem decides_everything {seen events : List (Nat × α)} {closed : Bool}
    {result : List (Nat × α)} (h : (everything (σ := τ)).Decides id seen events closed result) :
    closed = true ∧ result = seen ++ events := by
  induction h with
  | ended => simp
  | stop hstop => simp [everything] at hstop
  | pass _ rest ih => simpa [everything] using ih

end Feed

/-! ## Entries place by place -/

/-- Entries that belong to one of several places each, collected place by place. -/
theorem perm_flatMap_filter {P : Nat → α → Prop} [∀ i, DecidablePred (P i)] {n : Nat}
    {entries : List α} (hsome : ∀ e ∈ entries, ∃ i < n, P i e)
    (hunique : ∀ e i j, P i e → P j e → i = j) :
    entries.Perm ((List.range n).flatMap fun i => entries.filter fun e => P i e) := by
  induction n generalizing entries with
  | zero =>
    have hnone : entries = [] := by
      refine List.eq_nil_iff_forall_not_mem.mpr ?_
      intro e he
      obtain ⟨i, hi, -⟩ := hsome e he
      omega
    simp [hnone]
  | succ n ih =>
    have hrest := @ih (entries.filter fun e => ¬ P n e) ?_
    · have hsame : ((List.range n).flatMap fun i =>
          (entries.filter fun e => ¬ P n e).filter fun e => P i e) =
          (List.range n).flatMap fun i => entries.filter fun e => P i e := by
        refine List.flatMap_congr ?_
        intro i hi
        rw [List.filter_filter]
        refine List.filter_congr ?_
        intro e _
        have hne : P i e → ¬ P n e := fun hPi hPn => by
          have := hunique e i n hPi hPn
          have := List.mem_range.mp hi
          omega
        simpa using hne
      rw [hsame] at hrest
      rw [List.range_succ, List.flatMap_append, List.flatMap_singleton]
      refine .trans ?_ (hrest.append_right _)
      have hparts := List.filter_append_perm (fun e => decide (P n e)) entries
      simp only [← decide_not] at hparts
      exact hparts.symm.trans List.perm_append_comm
    · intro e he
      obtain ⟨hmem, hn⟩ := List.mem_filter.mp he
      obtain ⟨i, hi, hP⟩ := hsome e hmem
      refine ⟨i, ?_, hP⟩
      have hne : i ≠ n := by
        rintro rfl
        simp [hP] at hn
      omega

theorem flatMap_range_toList (items : List α) :
    ((List.range items.length).flatMap fun index => items[index]?.toList) = items := by
  induction items using List.reverseRecOn with
  | nil => rfl
  | append_singleton rest item ih =>
    have hrest : ((List.range rest.length).flatMap fun index => (rest ++ [item])[index]?.toList) =
        rest := by
      refine Eq.trans (List.flatMap_congr ?_) ih
      intro index hindex
      rw [List.getElem?_append_left (List.mem_range.mp hindex)]
    rw [List.length_append, List.length_singleton, List.range_succ, List.flatMap_append,
      List.flatMap_singleton, List.getElem?_concat_length, hrest]
    rfl

/-- What is collected place by place is part of a list if there is at most the item of the place
at each of them. -/
theorem flatMap_range_sublist {items : List α} {part : Nat → List α}
    (h : ∀ index item, items[index]? = some item → (part index).Sublist [item]) :
    ((List.range items.length).flatMap part).Sublist items := by
  have hsublist : List.Sublist ((List.range items.length).flatMap part)
      ((List.range items.length).flatMap fun index => items[index]?.toList) := by
    refine List.Sublist.flatMap_right _ ?_
    intro index hindex
    have hitem := List.getElem?_eq_getElem (List.mem_range.mp hindex)
    rw [hitem]
    exact h index _ hitem
  rwa [flatMap_range_toList] at hsublist

/-- What is collected place by place is a list if there is the item of the place at each of
them. -/
theorem flatMap_range_eq {items : List α} {part : Nat → List α}
    (h : ∀ index item, items[index]? = some item → part index = [item]) :
    (List.range items.length).flatMap part = items := by
  refine Eq.trans (List.flatMap_congr ?_) (flatMap_range_toList items)
  intro index hindex
  have hitem := List.getElem?_eq_getElem (List.mem_range.mp hindex)
  rw [hitem, h index _ hitem]
  rfl

/-- A log is made of what was written at each place. -/
theorem perm_entriesAt {n : Nat} {tagged : List (Nat × ε)} (h : ∀ e ∈ tagged, e.1 < n) :
    (tagged.map Prod.snd).Perm ((List.range n).flatMap fun place => entriesAt place tagged) := by
  have hparts := perm_flatMap_filter (P := fun place (e : Nat × ε) => e.1 = place)
    (fun e he => ⟨e.1, h e he, rfl⟩) (fun e i j hi hj => hi.symm.trans hj)
  have hmap := hparts.map Prod.snd
  rw [List.map_flatMap] at hmap
  refine hmap.trans (.of_eq (List.flatMap_congr ?_))
  intro place _
  rw [entriesAt, ← List.filterMap_eq_map, List.filterMap_filter]
  refine List.filterMap_congr ?_
  intro e _
  simp

/-! ## Fan-outs -/

namespace FanOut

/-- The log of several routines side by side: each entry comes from one of them, and what comes
from a routine is as specified for it and its result, if it has ended. -/
def SideBySide (n : Nat) (S : Nat → LogSpec ε α) (entries : List ε) (results : Nat → Option α) :
    Prop :=
  ∃ tagged : List (Nat × ε), tagged.map Prod.snd = entries ∧ (∀ e ∈ tagged, e.1 < n) ∧
    ∀ place < n, S place (entriesAt place tagged) (results place)

/-- What a fan-out ends with that wants a value from each of its routines: all the values in
the order of the input, or the failure of one routine. -/
def AllOrFirst (n : Nat) (results : Nat → Option (Except φ α)) : Except φ (List α) → Prop
  | .ok values => values.length = n ∧
    ∀ place value, values[place]? = some value → results place = some (.ok value)
  | .error failure => ∃ place < n, results place = some (.error failure)

/-- What a fan-out reports that waits for all of its routines. -/
def Settled (n : Nat) (results : Nat → Option (Except φ α)) (report : Report φ α) : Prop :=
  ∃ values, values.length = n ∧
    (∀ place value, values[place]? = some value → results place = some value) ∧
    report = Report.ofResults 0 values

/-- The log and the result of a fan-out that wants a value from each of its routines. -/
def AllSpec (n : Nat) (S : Nat → LogSpec ε (Except φ α)) : LogSpec ε (Except φ (List α)) :=
  fun entries result => ∃ results, SideBySide n S entries results ∧
    ∀ value, result = some value → AllOrFirst n results value

/-- The log and the result of a fan-out that waits for all of its routines. -/
def SettledSpec (n : Nat) (S : Nat → LogSpec ε (Except φ α)) : LogSpec ε (Report φ α) :=
  fun entries result => ∃ results, SideBySide n S entries results ∧
    ∀ report, result = some report → Settled n results report

variable {n : Nat} {S : Nat → LogSpec ε α} {tagged : List (Nat × ε)} {events : List (Nat × α)}
variable {closed : Bool}

theorem lookup_of_at {place : Nat} {S : LogSpec ε α}
    (h : FeedSpec.At place S tagged events closed) :
    S (entriesAt place tagged) (events.lookup place) ∧
      (closed = true → (events.lookup place).isSome) ∧
      ∀ value, (place, value) ∈ events → events.lookup place = some value := by
  obtain ⟨value, hS, hevents, hover⟩ := h
  have hlookup : events.lookup place = value := by
    rw [lookup_eq_head?, hevents]
    cases value <;> rfl
  rw [hlookup]
  refine ⟨hS, hover, ?_⟩
  intro b hb
  rw [← mem_entriesAt, hevents] at hb
  simpa using hb

theorem sideBySide_of_each (h : FeedSpec.Each S 0 n tagged events closed) :
    SideBySide n S (tagged.map Prod.snd) fun place => events.lookup place :=
  ⟨tagged, rfl, fun e he => (h.entry_mem e he).2, fun place hplace =>
    (lookup_of_at (h.spec place (Nat.zero_le _) hplace)).1⟩

theorem lookup_of_mem (h : FeedSpec.Each S 0 n tagged events closed) {place : Nat} {value : α}
    (hmem : (place, value) ∈ events) : place < n ∧ events.lookup place = some value := by
  have hplace := (h.event_mem _ hmem).2
  exact ⟨hplace, (lookup_of_at (h.spec place (Nat.zero_le _) hplace)).2.2 value hmem⟩

theorem isSome_lookup (h : FeedSpec.Each S 0 n tagged events true) :
    ∀ place < n, (events.lookup place).isSome := fun place hplace =>
  (lookup_of_at (h.spec place (Nat.zero_le _) hplace)).2.1 rfl

/-- The values of events at all places, in the order of the input. -/
theorem getElem?_inOrder {events : List (Nat × α)} (h : ∀ i < n, (events.lookup i).isSome) :
    (inOrder n events).length = n ∧ ∀ i < n, (inOrder n events)[i]? = events.lookup i := by
  induction n with
  | zero => simp [inOrder]
  | succ n ih =>
    obtain ⟨hlength, hget⟩ := ih fun i hi => h i (by omega)
    obtain ⟨value, hvalue⟩ := Option.isSome_iff_exists.mp (h n (by omega))
    have hstep : inOrder (n + 1) events = inOrder n events ++ [value] := by
      simp [inOrder, List.range_succ, hvalue]
    rw [hstep]
    refine ⟨by simp [hlength], ?_⟩
    intro i hi
    by_cases hlast : i = n
    · subst hlast
      rw [List.getElem?_append_right (by omega), hlength, hvalue]
      simp
    · rw [List.getElem?_append_left (by omega), hget i (by omega)]

theorem lookup_inOrder {events : List (Nat × α)} (h : ∀ i < n, (events.lookup i).isSome)
    {place : Nat} {value : α} (hget : (inOrder n events)[place]? = some value) :
    events.lookup place = some value := by
  obtain ⟨hlength, hall⟩ := getElem?_inOrder h
  have hlt : place < n := by
    rw [← hlength]
    exact (List.getElem?_eq_some_iff.mp hget).1
  rw [← hall place hlt, hget]

/-! ### Fan-outs in step -/

variable {R : σ → τ → Prop} {log : τ → List ε} {S : Nat → LogSpec ε (Except φ α)}
variable {ps : List (Routine σ (Except φ α))} {qs : List (Routine τ (Except φ α))}

/-- What a small fan-out makes of what it has read. -/
theorem allOrFirst_of_earliest {tagged : List (Nat × ε)} {events : List (Nat × Except φ α)}
    {closed : Bool} {result : Except φ (List (Nat × α))}
    (h : FeedSpec.Each S 0 n tagged events closed)
    (hdecides : (Feed.earliest (σ := τ)).Decides .ok [] events closed result) :
    AllOrFirst n (fun place => events.lookup place) (result.map (inOrder n)) := by
  rcases Feed.decides_earliest hdecides with ⟨passed, rfl, rfl, rfl⟩ | ⟨place, failure, hmem, rfl⟩
  · have hlookup := lookup_map (.ok : α → Except φ α) passed
    have hall : ∀ i < n, (passed.lookup i).isSome := by
      intro i hi
      have := isSome_lookup h i hi
      rwa [hlookup, Option.isSome_map] at this
    refine ⟨(getElem?_inOrder hall).1, ?_⟩
    intro place value hget
    have hvalue := lookup_inOrder hall hget
    simp [hlookup, hvalue]
  · obtain ⟨hplace, hresult⟩ := lookup_of_mem h hmem
    exact ⟨place, hplace, hresult⟩

theorem exists_map_ok {results : List (Except φ α)} (h : ∀ r ∈ results, ∃ value, r = .ok value) :
    ∃ values : List α, results = values.map .ok := by
  induction results with
  | nil => exact ⟨[], rfl⟩
  | cons r rest ih =>
    obtain ⟨value, rfl⟩ := h r (by simp)
    obtain ⟨values, rfl⟩ := ih fun r hr => h r (by simp [hr])
    exact ⟨value :: values, rfl⟩

/-- What a large fan-out makes of what it has read. -/
theorem allOrFirst_of_inInputOrder {tagged : List (Nat × ε)} {events : List (Nat × Except φ α)}
    {closed : Bool} {result : Except φ (List (Nat × Except φ α))} (hn : 0 < n)
    (h : FeedSpec.Each S 0 n tagged events closed)
    (hdecides : (Feed.inInputOrder (σ := τ)).Decides .ok [] events closed result) :
    AllOrFirst n (fun place => events.lookup place)
      (result.map fun events => (inOrder n events).filterMap success?) := by
  rcases Feed.decides_inInputOrder hdecides with ⟨rfl, rfl, hsettled⟩ | ⟨place, failure, hmem, rfl⟩
  · have hall := isSome_lookup h
    have hne : events ≠ [] := by
      rintro rfl
      simpa using hall 0 hn
    have hok := Feed.ok_of_settledFailure?_eq_none hall (hsettled hne)
    obtain ⟨hlength, hget⟩ := getElem?_inOrder hall
    obtain ⟨values, hvalues⟩ : ∃ values : List α, inOrder n events = values.map .ok := by
      refine exists_map_ok ?_
      intro result hmem
      obtain ⟨i, hi⟩ := List.mem_iff_getElem?.mp hmem
      have hlt : i < n := by
        rw [← hlength]
        exact (List.getElem?_eq_some_iff.mp hi).1
      obtain ⟨value, hvalue⟩ := hok i hlt
      rw [hget i hlt, hvalue] at hi
      exact ⟨value, (Option.some.inj hi).symm⟩
    have hsuccess : (inOrder n events).filterMap success? = values := by
      rw [hvalues, List.filterMap_map]
      exact List.filterMap_some
    simp only [List.nil_append, Except.map, AllOrFirst, hsuccess]
    constructor
    · rw [← hlength, hvalues, List.length_map]
    · intro place value hvalue
      refine lookup_inOrder hall ?_
      rw [hvalues, List.getElem?_map, hvalue]
      rfl
  · obtain ⟨hplace, hresult⟩ := lookup_of_mem h (by simpa using hmem)
    exact ⟨place, hplace, hresult⟩

/-- What a fan-out reports of everything that it has read. -/
theorem settled_of_everything {tagged : List (Nat × ε)} {events result : List (Nat × Except φ α)}
    {closed : Bool} (h : FeedSpec.Each S 0 n tagged events closed)
    (hdecides : (Feed.everything (σ := τ)).Decides id [] events closed result) :
    Settled n (fun place => events.lookup place) (Report.ofResults 0 (inOrder n result)) := by
  obtain ⟨rfl, hresult⟩ := Feed.decides_everything hdecides
  rw [List.nil_append] at hresult
  subst hresult
  have hall := isSome_lookup h
  exact ⟨inOrder n result, (getElem?_inOrder hall).1, fun _ _ => lookup_inOrder hall, rfl⟩

/-- A policy reads routines side by side, and something is made of what it decides: the log is
that of the routines, and what is made depends on their results. -/
theorem inStep_results {β γ μ : Type} {r : Feed.Reader τ (Nat × Except φ α) β μ} {finish : μ → β}
    {seen : μ} {p : Routine σ β} {q : Routine τ β} {make : β → γ}
    {P : (Nat → Option (Except φ α)) → γ → Prop}
    (hread : Routine.InStep R log p q (r.Spec finish seen (FeedSpec.Each S 0 n)))
    (hmake : ∀ {tagged events closed result}, FeedSpec.Each S 0 n tagged events closed →
      r.Decides finish seen events closed result →
      P (fun place => events.lookup place) (make result)) :
    Routine.InStep R log (p.map make) (q.map make) fun entries value =>
      ∃ results, SideBySide n S entries results ∧ ∀ b, value = some b → P results b := by
  refine hread.map ?_ ?_
  · rintro entries ⟨tagged, events, closed, rfl, heach, -⟩
    exact ⟨_, sideBySide_of_each heach, by simp⟩
  · rintro entries result ⟨tagged, events, closed, rfl, heach, hdecides⟩
    have hsides := sideBySide_of_each heach
    refine ⟨⟨_, hsides, by simp⟩, _, hsides, ?_⟩
    intro value hvalue
    obtain rfl := Option.some.inj hvalue
    exact hmake heach (hdecides _ rfl)

/-- A fan-out that wants a value from each of its routines writes what these write, and ends
with all their values or with the failure of one. -/
theorem inStep_allOrFirstFailure (hlength : ps.length = qs.length)
    (h : ∀ i p q, ps[i]? = some p → qs[i]? = some q → Routine.InStep R log p q (S i)) :
    Routine.InStep R log (allOrFirstFailure ps) (allOrFirstFailure qs) (AllSpec ps.length S) := by
  have hfeed := Feed.inStep_mergeFrom (S := S) (precedence ps.length) 0 hlength (by simpa using h)
  rw [Nat.zero_add] at hfeed
  rw [allOrFirstFailure, allOrFirstFailure, ← hlength]
  by_cases hsmall : ps.length ≤ smallSize
  · simp only [hsmall, if_true]
    have hread := Feed.Reader.inStep (Feed.earliest (σ := σ)) (Feed.earliest (σ := τ)) .ok rfl rfl
      (fun _ => rfl) (fun _ => rfl) hfeed []
    exact inStep_results hread allOrFirst_of_earliest
  · simp only [hsmall, if_false]
    have hread := Feed.Reader.inStep (Feed.inInputOrder (σ := σ)) (Feed.inInputOrder (σ := τ)) .ok
      rfl rfl (fun _ => rfl) (fun _ => rfl) hfeed []
    exact inStep_results hread (allOrFirst_of_inInputOrder (by omega))

/-- A fan-out over the items of a list, with one routine for each of them. -/
theorem inStep_each {ι : Type} (items : List ι) {p : Nat → ι → Routine σ (Except φ α)}
    {q : Nat → ι → Routine τ (Except φ α)} {S : Nat → ι → LogSpec ε (Except φ α)}
    (h : ∀ index item, Routine.InStep R log (p index item) (q index item) (S index item)) :
    Routine.InStep R log (allOrFirstFailure (items.mapIdx p)) (allOrFirstFailure (items.mapIdx q))
      (AllSpec items.length fun index entries result =>
        ∀ item, items[index]? = some item → S index item entries result) := by
  rw [← List.length_mapIdx (l := items) (f := p)]
  refine inStep_allOrFirstFailure (by simp) ?_
  intro index first second hfirst hsecond
  rw [List.getElem?_mapIdx] at hfirst hsecond
  obtain ⟨item, hitem, rfl⟩ := Option.map_eq_some_iff.mp hfirst
  obtain ⟨_, hsame, rfl⟩ := Option.map_eq_some_iff.mp hsecond
  obtain rfl := Option.some.inj (hitem.symm.trans hsame)
  refine (h index item).mono ?_
  rintro entries result hS _ hother
  rwa [← Option.some.inj (hitem.symm.trans hother)]

/-- A fan-out that waits for all of its routines writes what these write and reports all
their results. -/
theorem inStep_settleAll (hlength : ps.length = qs.length)
    (h : ∀ i p q, ps[i]? = some p → qs[i]? = some q → Routine.InStep R log p q (S i)) :
    Routine.InStep R log (settleAll ps) (settleAll qs) (SettledSpec ps.length S) := by
  have hfeed := Feed.inStep_mergeFrom (S := S) (precedence ps.length) 0 hlength (by simpa using h)
  rw [Nat.zero_add] at hfeed
  rw [settleAll, settleAll, ← hlength]
  have hread := Feed.Reader.inStep (Feed.everything (σ := σ)) (Feed.everything (σ := τ)) id rfl rfl
    (fun _ => rfl) (fun _ => rfl) hfeed []
  exact inStep_results hread settled_of_everything

end FanOut

end ActivityFlow
