import ActivityFlow.Proofs.FanOut.Policy
import Mathlib.Data.Nat.Find

/-!
# The failure of a fan-out

A small fan-out ends at the earliest failure. A large one ends when the first failing future
of the input and all futures in front of it have ended, which is the earliest failure only if
nothing in front of that takes longer.
-/
namespace ActivityFlow

variable {σ α φ : Type}

namespace FanOut

variable (futures : List (Future σ φ α))

/-- Of the futures that fail, the one at the given place does so earliest; of those that fail
in the same millisecond it is the first in the input. -/
structure IsEarliestFailure (place : Nat) (future : Future σ φ α) (failure : φ) : Prop where
  at_place : futures[place]? = some future
  fails : future.result = .error failure
  least : ∀ other g f, futures[other]? = some g → g.result = .error f →
    future.duration < g.duration ∨ (future.duration = g.duration ∧ place ≤ other)

/-- Of the futures that fail, the one at the given place is the first in the input. -/
structure IsFirstInInput (place : Nat) (future : Future σ φ α) (failure : φ) : Prop where
  at_place : futures[place]? = some future
  fails : future.result = .error failure
  first : ∀ other g f, futures[other]? = some g → g.result = .error f → place ≤ other

/-- The fan-out ends after the given time with the given failure, and cancels what has not
ended: every future that takes less time has acted, and none that takes more. -/
structure EndsWith (clock : Clock) (state : σ) (failure : φ) (elapsed : Nat) : Prop where
  value : ((allOrFirstFailure (futures.map Future.routine)).run clock state).value = .error failure
  time : ((allOrFirstFailure (futures.map Future.routine)).run clock state).clock.now =
    clock.now + elapsed
  cancelled : ∃ acted : List Nat, acted.Nodup ∧
    (∀ place ∈ acted, ∃ future, futures[place]? = some future ∧ future.duration ≤ elapsed) ∧
    (∀ place future, futures[place]? = some future → future.duration < elapsed → place ∈ acted) ∧
    ((allOrFirstFailure (futures.map Future.routine)).run clock state).state =
      acted.foldl (fun state place => Future.effectAt futures place state) state

variable {futures}

theorem places_nodup {start : Nat} {endings : List (Feed.Ending (Except φ α))}
    (hperm : endings.Perm (Future.endingsFrom start 0 futures)) :
    (endings.map Feed.Ending.place).Nodup := by
  rw [(hperm.map Feed.Ending.place).nodup_iff]
  have hplaces : (Future.endingsFrom start 0 futures).map Feed.Ending.place =
      List.range' 0 futures.length := by
    rw [← List.zipIdx_map_snd 0 futures, Future.endingsFrom, List.map_map]
    rfl
  rw [hplaces]
  exact List.nodup_range'

/-- What a run that stopped at an ending has performed. -/
theorem endsWith_of_run {rule : Precedence} {clock : Clock} {state : σ} {failure : φ}
    {elapsed turn : Nat}
    {before after : List (Feed.Ending (Except φ α))} {last : Feed.Ending (Except φ α)}
    (hperm : (before ++ last :: after).Perm (Future.endingsFrom clock.now 0 futures))
    (hpair : (before ++ last :: after).Pairwise (Feed.Before rule))
    (htime : last.time = clock.now + elapsed)
    (hrun : (allOrFirstFailure (futures.map Future.routine)).run clock state =
      ⟨.error failure, ⟨last.time, turn⟩,
        Feed.perform (Future.effectAt futures) (before ++ [last]) state⟩) :
    EndsWith futures clock state failure elapsed := by
  obtain ⟨-, hlater, -⟩ := List.pairwise_append.mp hpair
  refine ⟨by rw [hrun], by rw [hrun, htime], (before ++ [last]).map Feed.Ending.place,
    ?_, ?_, ?_, ?_⟩
  · refine (places_nodup hperm).sublist (List.Sublist.map _ ?_)
    simp
  · intro place hplace
    obtain ⟨e, he, rfl⟩ := List.mem_map.mp hplace
    obtain ⟨hin, hle⟩ := Feed.time_le_of_mem hpair he
    obtain ⟨future, hget, hend, -⟩ := Future.mem_endingsFrom_zero.mp (hperm.mem_iff.mp hin)
    exact ⟨future, hget, by omega⟩
  · intro place future hget hlt
    have hin : (⟨clock.now + future.duration, place, future.result⟩ : Feed.Ending (Except φ α)) ∈
        before ++ last :: after :=
      hperm.mem_iff.mpr (Future.mem_endingsFrom_zero.mpr ⟨future, hget, rfl, rfl⟩)
    refine List.mem_map.mpr ⟨⟨clock.now + future.duration, place, future.result⟩, ?_, rfl⟩
    rcases List.mem_append.mp hin with hin | hin
    · exact List.mem_append_left _ hin
    · rcases List.mem_cons.mp hin with hin | hin
      · simp [hin]
      · have hle := (List.rel_of_pairwise_cons hlater hin).time_le
        simp only at hle
        omega
  · rw [hrun]
    simp only [Feed.perform, List.foldl_map]

/-- A small fan-out ends with the failure at which its policy stops. -/
theorem run_of_small (hsmall : futures.length ≤ smallSize) {clock last : Clock}
    {state final : σ} {failure : φ}
    (h : (Feed.earliest.read [] (Feed.ofRoutines (precedence futures.length)
      (futures.map Future.routine))).run clock state = ⟨.error failure, last, final⟩) :
    (allOrFirstFailure (futures.map Future.routine)).run clock state =
      ⟨.error failure, last, final⟩ := by
  simp only [allOrFirstFailure, List.length_map, if_pos hsmall, Routine.run_map]
  simp only [Feed.earliest] at h
  rw [h]
  rfl

/-- A large fan-out ends with the failure at which its policy stops. -/
theorem run_of_large (hlarge : ¬ futures.length ≤ smallSize) {clock last : Clock}
    {state final : σ} {failure : φ}
    (h : (Feed.inInputOrder.read [] (Feed.ofRoutines (precedence futures.length)
      (futures.map Future.routine))).run clock state = ⟨.error failure, last, final⟩) :
    (allOrFirstFailure (futures.map Future.routine)).run clock state =
      ⟨.error failure, last, final⟩ := by
  simp only [allOrFirstFailure, List.length_map, if_neg hlarge, Routine.run_map]
  simp only [Feed.inInputOrder] at h
  rw [h]
  rfl

/-- A small fan-out ends at the earliest failure. -/
theorem endsWith_of_small (hsmall : futures.length ≤ smallSize) {place : Nat}
    {future : Future σ φ α} {failure : φ} (h : IsEarliestFailure futures place future failure)
    (clock : Clock) (state : σ) : EndsWith futures clock state failure future.duration := by
  obtain ⟨endings, ⟨hperm, hpair⟩, hread⟩ :=
    (Feed.emits_ofRoutines (precedence futures.length) clock.now futures).run_read
      Feed.earliest [] clock rfl state
  have hin : (⟨clock.now + future.duration, place, future.result⟩ : Feed.Ending (Except φ α)) ∈
      endings :=
    hperm.mem_iff.mpr (Future.mem_endingsFrom_zero.mpr ⟨future, h.at_place, rfl, rfl⟩)
  obtain ⟨before, after, rfl⟩ := List.append_of_mem hin
  have hinput : precedence futures.length = .input := if_pos hsmall
  -- A failure in front of the earliest one would be earlier.
  have hbefore : ∀ e ∈ before, ∃ value, e.value = .ok value := by
    intro e he
    cases hvalue : e.value with
    | ok value => exact ⟨value, rfl⟩
    | error f =>
      obtain ⟨g, hget, htime, hresult⟩ := Future.mem_endingsFrom_zero.mp
        (hperm.mem_iff.mp (List.mem_append_left _ he))
      have hleast := h.least e.place g f hget (hresult.symm.trans hvalue)
      have hcross := (List.pairwise_append.mp hpair).2.2 e he _ (List.mem_cons_self ..)
      simp only [Feed.Before, hinput, true_imp_iff] at hcross
      omega
  obtain ⟨turn, hrun⟩ := hread before _ after _ rfl
    (Feed.stopsAt_earliest hbefore h.fails [])
  exact endsWith_of_run hperm hpair rfl (run_of_small hsmall hrun)

/-- The time by which the futures up to a place of the input have ended. -/
structure IsTimeOfAll (futures : List (Future σ φ α)) (place elapsed : Nat) : Prop where
  bound : ∀ other ≤ place, ∀ g, futures[other]? = some g → g.duration ≤ elapsed
  attained : ∃ other ≤ place, ∃ g, futures[other]? = some g ∧ g.duration = elapsed

/-- Among endings that include the given place there is a last one up to that place. -/
theorem exists_last_up_to {endings : List (Feed.Ending α)} {place : Nat}
    (h : ∃ e ∈ endings, e.place ≤ place) :
    ∃ before last after, endings = before ++ last :: after ∧ last.place ≤ place ∧
      ∀ e ∈ after, place < e.place := by
  induction endings with
  | nil => simp at h
  | cons first rest ih =>
    by_cases hrest : ∃ e ∈ rest, e.place ≤ place
    · obtain ⟨before, last, after, rfl, hlast, hafter⟩ := ih hrest
      exact ⟨first :: before, last, after, rfl, hlast, hafter⟩
    · simp only [not_exists, not_and, Nat.not_le] at hrest
      obtain ⟨e, he, hle⟩ := h
      rcases List.mem_cons.mp he with rfl | hmem
      · exact ⟨[], e, rest, rfl, hle, hrest⟩
      · have := hrest e hmem
        omega

section UpTo

variable {start place : Nat} {before after : List (Feed.Ending (Except φ α))}
variable {last : Feed.Ending (Except φ α)}

/-- When no ending up to a place is missing any more, every future up to it has its ending
there. -/
theorem mem_endings_up_to
    (hperm : (before ++ last :: after).Perm (Future.endingsFrom start 0 futures))
    (hafter : ∀ e ∈ after, place < e.place) {other : Nat} (hle : other ≤ place)
    {g : Future σ φ α} (hg : futures[other]? = some g) :
    (⟨start + g.duration, other, g.result⟩ : Feed.Ending (Except φ α)) ∈ before ++ [last] := by
  have hin : (⟨start + g.duration, other, g.result⟩ : Feed.Ending (Except φ α)) ∈
      before ++ [last] ++ after := by
    rw [← List.append_cons]
    exact hperm.mem_iff.mpr (Future.mem_endingsFrom_zero.mpr ⟨g, hg, rfl, rfl⟩)
  rcases List.mem_append.mp hin with hin | hbehind
  · exact hin
  · have := hafter _ hbehind
    simp only at this
    omega

/-- A large fan-out stops when the first failing future of the input and all futures in front
of it have ended. -/
theorem stopsAt_of_isFirstInInput
    (hperm : (before ++ last :: after).Perm (Future.endingsFrom start 0 futures))
    (hlast : last.place ≤ place) (hafter : ∀ e ∈ after, place < e.place)
    {future : Future σ φ α} {failure : φ} (h : IsFirstInInput futures place future failure) :
    (Feed.inInputOrder (σ := σ)).StopsAt [] before last (.error failure) := by
  obtain ⟨hlt, -⟩ := List.getElem?_eq_some_iff.mp h.at_place
  have hof : ∀ e ∈ before ++ [last], ∃ g, futures[e.place]? = some g ∧ e.value = g.result := by
    intro e he
    have hin : e ∈ before ++ last :: after := by
      rw [List.append_cons]
      exact List.mem_append_left _ he
    obtain ⟨g, hg, -, hvalue⟩ := Future.mem_endingsFrom_zero.mp (hperm.mem_iff.mp hin)
    exact ⟨g, hg, hvalue⟩
  refine Feed.stopsAt_inInputOrder hlast ?_ ?_ ?_ ?_
  · intro e he heq
    have hnodup := places_nodup hperm
    rw [List.map_append, List.map_cons] at hnodup
    exact (List.nodup_append.mp hnodup).2.2 _ (List.mem_map_of_mem he) _ (by simp) heq
  · intro other hle
    have hget := List.getElem?_eq_getElem (Nat.lt_of_le_of_lt hle hlt)
    exact ⟨_, mem_endings_up_to hperm hafter hle hget, rfl⟩
  · rintro e he rfl
    obtain ⟨g, hg, hvalue⟩ := hof e he
    obtain rfl : future = g := Option.some.inj (h.at_place.symm.trans hg)
    rw [hvalue, h.fails]
  · intro e he hfront
    cases hvalue : e.value with
    | ok value => exact ⟨value, rfl⟩
    | error f =>
      obtain ⟨g, hg, hresult⟩ := hof e he
      have := h.first e.place g f hg (hresult.symm.trans hvalue)
      omega

/-- The last ending up to a place comes when all futures up to this place have ended. -/
theorem isTimeOfAll_of_last
    (hperm : (before ++ last :: after).Perm (Future.endingsFrom start 0 futures))
    {precedence : Precedence}
    (hpair : (before ++ last :: after).Pairwise (Feed.Before precedence))
    (hlast : last.place ≤ place) (hafter : ∀ e ∈ after, place < e.place) :
    ∃ elapsed, last.time = start + elapsed ∧ IsTimeOfAll futures place elapsed := by
  obtain ⟨slowest, hget, htime, -⟩ :=
    Future.mem_endingsFrom_zero.mp (hperm.mem_iff.mp (List.mem_append_right _ List.mem_cons_self))
  refine ⟨slowest.duration, htime, ?_, last.place, hlast, slowest, hget, rfl⟩
  intro other hle g hg
  have hend := (Feed.time_le_of_mem hpair (mem_endings_up_to hperm hafter hle hg)).2
  simp only at hend
  omega

end UpTo

/-- A large fan-out ends with the failure that is first in the input, when all futures up to
this one have ended. -/
theorem endsWith_of_large (hlarge : ¬ futures.length ≤ smallSize) {place : Nat}
    {future : Future σ φ α} {failure : φ} (h : IsFirstInInput futures place future failure)
    (clock : Clock) (state : σ) :
    ∃ elapsed, IsTimeOfAll futures place elapsed ∧
      EndsWith futures clock state failure elapsed := by
  obtain ⟨endings, ⟨hperm, hpair⟩, hread⟩ :=
    (Feed.emits_ofRoutines (precedence futures.length) clock.now futures).run_read
      Feed.inInputOrder [] clock rfl state
  have hown : (⟨clock.now + future.duration, place, future.result⟩ :
      Feed.Ending (Except φ α)) ∈ endings :=
    hperm.mem_iff.mpr (Future.mem_endingsFrom_zero.mpr ⟨future, h.at_place, rfl, rfl⟩)
  obtain ⟨before, last, after, rfl, hlast, hafter⟩ :=
    exists_last_up_to ⟨_, hown, Nat.le_refl place⟩
  obtain ⟨elapsed, htime, hall⟩ := isTimeOfAll_of_last hperm hpair hlast hafter
  obtain ⟨turn, hrun⟩ := hread before last after _ rfl
    (stopsAt_of_isFirstInInput hperm hlast hafter h)
  exact ⟨elapsed, hall, endsWith_of_run hperm hpair htime (run_of_large hlarge hrun)⟩

theorem exists_isFirstInInput (h : ∃ future ∈ futures, ∃ failure, future.result = .error failure) :
    ∃ place future failure, IsFirstInInput futures place future failure := by
  classical
  have hex : ∃ place : Nat, ∃ future : Future σ φ α, ∃ failure, futures[place]? = some future ∧
      future.result = .error failure := by
    obtain ⟨future, hmem, failure, hfail⟩ := h
    obtain ⟨place, hget⟩ := List.mem_iff_getElem?.mp hmem
    exact ⟨place, future, failure, hget, hfail⟩
  obtain ⟨future, failure, hget, hfail⟩ := Nat.find_spec hex
  refine ⟨Nat.find hex, future, failure, hget, hfail, ?_⟩
  intro other g f hg hf
  exact Nat.find_min' hex ⟨g, f, hg, hf⟩

/-- If a future fails, one fails earliest. -/
theorem exists_isEarliestFailure
    (h : ∃ future ∈ futures, ∃ failure, future.result = .error failure) :
    ∃ place future failure, IsEarliestFailure futures place future failure := by
  classical
  have htime : ∃ duration, ∃ future ∈ futures, future.duration = duration ∧
      ∃ failure, future.result = .error failure := by
    obtain ⟨future, hmem, failure, hfail⟩ := h
    exact ⟨future.duration, future, hmem, rfl, failure, hfail⟩
  have hex : ∃ place : Nat, ∃ future : Future σ φ α, ∃ failure, futures[place]? = some future ∧
      future.duration = Nat.find htime ∧ future.result = .error failure := by
    obtain ⟨future, hmem, hduration, failure, hfail⟩ := Nat.find_spec htime
    obtain ⟨place, hget⟩ := List.mem_iff_getElem?.mp hmem
    exact ⟨place, future, failure, hget, hduration, hfail⟩
  obtain ⟨future, failure, hget, hduration, hfail⟩ := Nat.find_spec hex
  refine ⟨Nat.find hex, future, failure, hget, hfail, ?_⟩
  intro other g f hg hf
  have hle : Nat.find htime ≤ g.duration :=
    Nat.find_min' htime ⟨g, List.mem_of_getElem? hg, rfl, f, hf⟩
  rcases Nat.lt_or_eq_of_le hle with hlt | heq
  · exact Or.inl (hduration ▸ hlt)
  · exact Or.inr ⟨hduration.trans heq, Nat.find_min' hex ⟨g, f, hg, heq.symm, hf⟩⟩

/-- A fan-out in which a future fails ends at the earliest failure exactly if it has no more than
30 futures or nothing in front of the failing future takes longer. A larger one always ends with
the failure that is first in the input, when all futures up to this one have ended. -/
theorem endsWith_earliest_iff
    (h : ∃ future ∈ futures, ∃ failure, future.result = .error failure) (clock : Clock)
    (state : σ) :
    (∃ place future failure, IsEarliestFailure futures place future failure) ∧
    (∀ place future failure, IsEarliestFailure futures place future failure →
      (EndsWith futures clock state failure future.duration ↔
        futures.length ≤ 30 ∨
          ∀ other < place, ∀ g, futures[other]? = some g → g.duration ≤ future.duration)) ∧
    (30 < futures.length → ∃ place future failure elapsed,
      IsFirstInInput futures place future failure ∧ IsTimeOfAll futures place elapsed ∧
        EndsWith futures clock state failure elapsed) := by
  obtain ⟨first, own, ownFailure, hfirst⟩ := exists_isFirstInInput h
  refine ⟨exists_isEarliestFailure h, ?_, ?_⟩
  · intro place future failure hearliest
    have hle := hfirst.first place future failure hearliest.at_place hearliest.fails
    have hleast := hearliest.least first own ownFailure hfirst.at_place hfirst.fails
    by_cases hsmall : futures.length ≤ 30
    · exact ⟨fun _ => Or.inl hsmall, fun _ => endsWith_of_small hsmall hearliest clock state⟩
    obtain ⟨elapsed, htime, hlarge⟩ := endsWith_of_large hsmall hfirst clock state
    have hown := htime.bound first (Nat.le_refl _) own hfirst.at_place
    constructor
    · intro hends
      have helapsed : elapsed = future.duration := by
        have := hends.time.symm.trans hlarge.time
        omega
      subst helapsed
      obtain rfl : first = place := by omega
      exact Or.inr fun other hother g hg => htime.bound other (Nat.le_of_lt hother) g hg
    · intro hcond
      have hfront := hcond.resolve_left hsmall
      obtain rfl : first = place := by
        by_contra hne
        have := hfront first (by omega) own hfirst.at_place
        omega
      obtain rfl : own = future :=
        Option.some.inj (hfirst.at_place.symm.trans hearliest.at_place)
      obtain rfl : ownFailure = failure := by
        have := hfirst.fails.symm.trans hearliest.fails
        simpa using this
      obtain ⟨other, hother, g, hg, hattained⟩ := htime.attained
      have helapsed : elapsed = own.duration := by
        rcases Nat.lt_or_eq_of_le hother with hlt | rfl
        · have := hfront other hlt g hg
          omega
        · obtain rfl : g = own := Option.some.inj (hg.symm.trans hfirst.at_place)
          exact hattained.symm
      rw [← helapsed]
      exact hlarge
  · intro hlarge
    obtain ⟨elapsed, htime, hends⟩ :=
      endsWith_of_large (Nat.not_le_of_lt hlarge) hfirst clock state
    exact ⟨first, own, ownFailure, elapsed, hfirst, htime, hends⟩

/-- Two futures fail, the second one earlier. Alone they end with its failure. With 29 more
that succeed later the fan-out waits for the first one instead. -/
theorem endsWith_earliest_iff_thirty_one :
    let failing : List (Future Unit String Nat) :=
      [.timed 10 id (.error "late"), .timed 5 id (.error "early")]
    let futures := failing ++ List.replicate 29 (.timed 20 id (.ok 0))
    (∃ future ∈ futures, ∃ failure, future.result = .error failure) ∧
      EndsWith failing ⟨0, 0⟩ () "early" 5 ∧ EndsWith futures ⟨0, 0⟩ () "late" 10 ∧
      ¬ EndsWith futures ⟨0, 0⟩ () "early" 5 := by
  intro failing futures
  let late : Future Unit String Nat := .timed 10 id (.error "late")
  let early : Future Unit String Nat := .timed 5 id (.error "early")
  let patient : Future Unit String Nat := .timed 20 id (.ok 0)
  have hfails : ∀ n, ∃ future ∈ failing ++ List.replicate n patient,
      ∃ failure, future.result = .error failure := fun n =>
    ⟨late, List.mem_cons_self .., "late", rfl⟩
  have hearliest : ∀ n,
      IsEarliestFailure (failing ++ List.replicate n patient) 1 early "early" := by
    intro n
    refine ⟨rfl, rfl, ?_⟩
    intro other g f hg hf
    match other with
    | 0 =>
      obtain rfl : late = g := Option.some.inj hg
      exact Or.inl (by decide)
    | 1 =>
      obtain rfl : early = g := Option.some.inj hg
      exact Or.inr ⟨rfl, Nat.le_refl _⟩
    | _ + 2 =>
      have hmem : g ∈ List.replicate n patient := List.mem_of_getElem? hg
      rw [(List.mem_replicate.mp hmem).2] at hf
      cases hf
  have hiff := fun n =>
    (endsWith_earliest_iff (hfails n) ⟨0, 0⟩ ()).2.1 1 early "early" (hearliest n)
  obtain ⟨place, future, failure, elapsed, hfirst, htime, hlarge⟩ :=
    (endsWith_earliest_iff (hfails 29) ⟨0, 0⟩ ()).2.2 (by decide)
  refine ⟨hfails 29, (hiff 0).mpr (Or.inl (by decide)), ?_, ?_⟩
  · obtain rfl : place = 0 := Nat.le_zero.mp (hfirst.first 0 late "late" rfl rfl)
    obtain rfl : late = future := Option.some.inj hfirst.at_place
    obtain rfl : "late" = failure := Except.error.inj hfirst.fails
    obtain ⟨other, hother, g, hg, rfl⟩ := htime.attained
    obtain rfl : other = 0 := Nat.le_zero.mp hother
    obtain rfl : late = g := Option.some.inj hg
    exact hlarge
  · intro hends
    rcases (hiff 29).mp hends with hsmall | hfront
    · exact absurd hsmall (by decide)
    · exact absurd (hfront 0 (by decide) late rfl) (by decide)

end FanOut

end ActivityFlow
