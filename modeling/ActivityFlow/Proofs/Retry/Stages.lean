import ActivityFlow.Retry.Attempts
import Mathlib.Computability.RegularExpressions
import Mathlib.Data.List.Chain

/-!
# The stages of an invocation

Whatever is entered into the history of an invocation, its stages are a word of a regular
language: attempts that were retried, then perhaps one more, which may have come to its end.
The words are the lists that begin with the first stage and in which every stage may follow the
one before it, so events are entered without a refusal exactly if their stages make up a word.
-/
namespace ActivityFlow

namespace AttemptStage

open RegularExpression in
/-- The lists of stages that an invocation can go through. -/
def histories : RegularExpression AttemptStage :=
  char pending * star (char attempting * char retrying) *
    (1 + char attempting * (1 + char succeeded + char failedTerminal))

/-! ## Words of the language -/

/-- What can stand behind the attempts that were retried. -/
def lastStages : List (List AttemptStage) :=
  [[], [attempting], [attempting, succeeded], [attempting, failedTerminal]]

def retriedStages (count : Nat) : List AttemptStage :=
  (List.replicate count [attempting, retrying]).flatten

theorem retriedStages_succ (count : Nat) :
    retriedStages (count + 1) = attempting :: retrying :: retriedStages count := by
  simp [retriedStages, List.replicate_succ]

theorem mem_char {stage : AttemptStage} {word : List AttemptStage} :
    word ∈ ({[stage]} : Language AttemptStage) ↔ word = [stage] := Iff.rfl

open RegularExpression in
theorem mem_lastStages {word : List AttemptStage} :
    word ∈ (1 + char attempting * (1 + char succeeded + char failedTerminal)).matches' ↔
      word ∈ lastStages := by
  simp [lastStages, Language.mem_add, Language.mem_mul, Language.mem_one, mem_char, or_and_right,
    exists_or, or_assoc, eq_comm]

open RegularExpression in
theorem mem_retriedStages {word : List AttemptStage} :
    word ∈ (star (char attempting * char retrying)).matches' ↔
      ∃ count, word = retriedStages count := by
  simp only [matches', Language.mem_kstar, Language.mem_mul, mem_char]
  constructor
  · rintro ⟨rounds, rfl, hrounds⟩
    refine ⟨rounds.length, ?_⟩
    rw [retriedStages, ← List.eq_replicate_of_mem (a := [attempting, retrying])]
    intro round hround
    obtain ⟨_, rfl, _, rfl, rfl⟩ := hrounds round hround
    rfl
  · rintro ⟨count, rfl⟩
    refine ⟨_, rfl, ?_⟩
    intro round hround
    rw [List.eq_of_mem_replicate hround]
    exact ⟨_, rfl, _, rfl, rfl⟩

theorem mem_histories_iff {word : List AttemptStage} :
    word ∈ histories.matches' ↔
      ∃ count, ∃ last ∈ lastStages, word = pending :: (retriedStages count ++ last) := by
  simp only [histories, RegularExpression.matches'_mul, RegularExpression.matches'_char,
    Language.mem_mul, mem_char]
  constructor
  · rintro ⟨_, ⟨_, rfl, retried, hretried, rfl⟩, last, hlast, rfl⟩
    obtain ⟨count, rfl⟩ := mem_retriedStages.mp hretried
    exact ⟨count, last, mem_lastStages.mp hlast, rfl⟩
  · rintro ⟨count, last, hlast, rfl⟩
    exact ⟨_, ⟨_, rfl, _, mem_retriedStages.mpr ⟨count, rfl⟩, rfl⟩, last,
      mem_lastStages.mpr hlast, rfl⟩

/-! ## Words and the table of stages -/

/-- An attempt can begin in this stage. -/
def IsIdle (stage : AttemptStage) : Prop := stage = pending ∨ stage = retrying

theorem allows_of_isIdle {stage : AttemptStage} (h : stage.IsIdle) (next : AttemptStage) :
    stage.allows next = true ↔ next = attempting := by
  rcases h with rfl | rfl <;> cases next <;> simp [allows]

theorem isChain_of_isIdle {stage : AttemptStage} (h : stage.IsIdle) (count : Nat)
    {last : List AttemptStage} (hlast : last ∈ lastStages) :
    (stage :: (retriedStages count ++ last)).IsChain fun stage next => stage.allows next := by
  induction count generalizing stage with
  | zero =>
    have hbegins := (allows_of_isIdle h attempting).mpr rfl
    have hends : attempting.allows succeeded = true ∧ attempting.allows failedTerminal = true :=
      ⟨rfl, rfl⟩
    simp only [lastStages, List.mem_cons, List.not_mem_nil, or_false] at hlast
    rcases hlast with rfl | rfl | rfl | rfl <;> simp [retriedStages, hbegins, hends]
  | succ count ih =>
    rw [retriedStages_succ, List.cons_append, List.cons_append, List.isChain_cons_cons,
      List.isChain_cons_cons]
    exact ⟨(allows_of_isIdle h attempting).mpr rfl, rfl, ih (.inr rfl)⟩

/-- Where every stage may follow the one before it, an attempt is retried until one stays or comes
to its end. -/
theorem exists_of_isChain {stage : AttemptStage} (h : stage.IsIdle) (rest : List AttemptStage)
    (hchain : (stage :: rest).IsChain fun stage next => stage.allows next) :
    ∃ count, ∃ last ∈ lastStages, rest = retriedStages count ++ last := by
  match rest with
  | [] => exact ⟨0, [], by simp [lastStages], rfl⟩
  | first :: rest =>
    rw [List.isChain_cons_cons, allows_of_isIdle h] at hchain
    obtain ⟨rfl, hchain⟩ := hchain
    match rest with
    | [] => exact ⟨0, [attempting], by simp [lastStages], rfl⟩
    | second :: rest =>
      rw [List.isChain_cons_cons] at hchain
      obtain ⟨hsecond, hchain⟩ := hchain
      have hends : second.isTerminal = true → rest = [] := by
        intro hterminal
        cases rest with
        | nil => rfl
        | cons third rest =>
          rw [List.isChain_cons_cons, not_allows_of_isTerminal hterminal] at hchain
          exact absurd hchain.1 (by simp)
      match second with
      | pending | attempting => simp [allows] at hsecond
      | succeeded =>
        rw [hends rfl]
        exact ⟨0, [attempting, succeeded], by simp [lastStages], rfl⟩
      | failedTerminal =>
        rw [hends rfl]
        exact ⟨0, [attempting, failedTerminal], by simp [lastStages], rfl⟩
      | retrying =>
        obtain ⟨count, last, hlast, rfl⟩ := exists_of_isChain (.inr rfl) rest hchain
        exact ⟨count + 1, last, hlast, by rw [retriedStages_succ]; rfl⟩

/-- The words are the lists that begin with the first stage and in which every stage may follow
the one before it. -/
theorem mem_histories_iff_isChain {word : List AttemptStage} :
    word ∈ histories.matches' ↔
      word.head? = some pending ∧ word.IsChain fun stage next => stage.allows next := by
  rw [mem_histories_iff]
  constructor
  · rintro ⟨count, last, hlast, rfl⟩
    exact ⟨rfl, isChain_of_isIdle (.inl rfl) count hlast⟩
  · rintro ⟨hhead, hchain⟩
    obtain ⟨rest, rfl⟩ := List.head?_eq_some_iff.mp hhead
    obtain ⟨count, last, hlast, rfl⟩ := exists_of_isChain (.inl rfl) rest hchain
    exact ⟨count, last, hlast, rfl⟩

end AttemptStage

/-- The stage that an event leads to. -/
def AttemptEvent.stage : AttemptEvent → AttemptStage
  | start => .attempting
  | retry => .retrying
  | succeed => .succeeded
  | fail => .failedTerminal

def attemptNumbers (events : List AttemptEvent)
    (answers : List (Except AttemptFault (Option Nat))) : List Nat :=
  (events.zip answers).filterMap fun e => if e.1 = .start then e.2.toOption.join else none

namespace AttemptRecord

/-- Enters events one after another. A refusal does not keep later events from being entered. -/
def handleAll (r : AttemptRecord) :
    List AttemptEvent → AttemptRecord × List (Except AttemptFault (Option Nat))
  | [] => (r, [])
  | event :: rest =>
    let (final, answers) := (r.handle event).1.handleAll rest
    (final, (r.handle event).2 :: answers)

/-- Every event was entered. -/
def AllEntered (answers : List (Except AttemptFault (Option Nat))) : Prop :=
  ∀ answer ∈ answers, ∃ number, answer = .ok number

/-- The refusal of an event in the current stage. -/
def refusal (r : AttemptRecord) (event : AttemptEvent) : AttemptFault :=
  .illegalTransition r.stage event.stage

/-- The history once an event has been entered. -/
def after (r : AttemptRecord) (event : AttemptEvent) : AttemptRecord where
  activity := r.activity
  attempts := r.attempts + if event = .start then 1 else 0
  stages := r.stages ++ [event.stage]

/-- What an event is answered with once it has been entered. -/
def number? (r : AttemptRecord) (event : AttemptEvent) : Option Nat :=
  if event = .start then some (r.attempts + 1) else none

/-! ## One event -/

variable {r : AttemptRecord} {event : AttemptEvent}

/-- An event whose stage may not follow is refused, and the history stays as it was. -/
theorem handle_of_not_allows (h : r.stage.allows event.stage = false) :
    r.handle event = (r, .error (r.refusal event)) := by
  have hadvance : r.advance event.stage = .error (r.refusal event) := by
    simp [advance, h, refusal]
  cases event with
  | start =>
    simp only [AttemptEvent.stage] at hadvance
    simp only [handle, start, hadvance, Except.map]
  | retry | succeed | fail =>
    simp only [AttemptEvent.stage] at hadvance
    simp only [handle, enter, hadvance]

theorem advance_of_allows {next : AttemptStage} (h : r.stage.allows next = true) :
    r.advance next = .ok { r with stages := r.stages ++ [next] } := by
  simp [advance, h]

/-- An event whose stage may follow is entered, as long as attempts can be counted. -/
theorem handle_of_allows (h : r.stage.allows event.stage = true)
    (hcount : event = .start → r.attempts + 1 < words32) :
    r.handle event = (r.after event, .ok (r.number? event)) := by
  have hadvance := advance_of_allows h
  cases event with
  | start =>
    simp only [AttemptEvent.stage] at hadvance
    simp only [handle, start, hadvance, hcount, if_true, Except.map]
    rfl
  | retry | succeed | fail =>
    simp only [AttemptEvent.stage] at hadvance
    simp only [handle, enter, hadvance]
    rfl

/-- The stage of an event is entered whether or not the attempt can be counted. -/
theorem stages_handle (r : AttemptRecord) (event : AttemptEvent) :
    (r.handle event).1.stages =
      r.stages ++ if r.stage.allows event.stage then [event.stage] else [] := by
  cases hallows : r.stage.allows event.stage with
  | false => simp [handle_of_not_allows hallows]
  | true =>
    have hadvance := advance_of_allows hallows
    cases event with
    | start =>
      simp only [AttemptEvent.stage] at hadvance ⊢
      simp only [handle, start, hadvance, if_true]
      split <;> rfl
    | retry | succeed | fail =>
      simp only [AttemptEvent.stage] at hadvance ⊢
      simp only [handle, enter, hadvance, if_true]

/-! ## All events -/

/-- What the histories of invocations have in common whose attempts can be counted. -/
structure Sound (r : AttemptRecord) : Prop where
  word : r.stages ∈ AttemptStage.histories.matches'
  counted : r.attempts = r.stages.count .attempting

theorem sound_fresh (activity : String) : (fresh activity).Sound :=
  ⟨AttemptStage.mem_histories_iff_isChain.mpr ⟨rfl, List.isChain_singleton _⟩, rfl⟩

theorem counted_after (h : r.attempts = r.stages.count .attempting) (event : AttemptEvent) :
    (r.after event).attempts = (r.after event).stages.count .attempting := by
  cases event <;> simp [after, AttemptEvent.stage, h]

theorem Sound.after (h : r.Sound) (hallows : r.stage.allows event.stage = true) :
    (r.after event).Sound := by
  obtain ⟨hhead, hchain⟩ := AttemptStage.mem_histories_iff_isChain.mp h.word
  refine ⟨AttemptStage.mem_histories_iff_isChain.mpr ⟨?_, ?_⟩, counted_after h.counted event⟩
  · simp [AttemptRecord.after, hhead]
  · refine List.isChain_append.mpr ⟨hchain, List.isChain_singleton _, ?_⟩
    intro last hlast next hnext
    have hstage : r.stage = last := by
      simp [stage, List.getLastD_eq_getLast?, Option.mem_def.mp hlast]
    obtain rfl : event.stage = next := by simpa using hnext
    rwa [← hstage]

/-- The course of events while attempts can be counted: each is entered if its stage may follow,
and refused otherwise. -/
inductive Course : AttemptRecord → List AttemptEvent → AttemptRecord →
    List (Except AttemptFault (Option Nat)) → Prop
  | nil {r : AttemptRecord} : Course r [] r []
  | refused {r final : AttemptRecord} {event : AttemptEvent} {later : List AttemptEvent}
    {answers : List (Except AttemptFault (Option Nat))}
    (h : r.stage.allows event.stage = false) (rest : Course r later final answers) :
    Course r (event :: later) final (.error (r.refusal event) :: answers)
  | entered {r final : AttemptRecord} {event : AttemptEvent} {later : List AttemptEvent}
    {answers : List (Except AttemptFault (Option Nat))}
    (h : r.stage.allows event.stage = true) (rest : Course (r.after event) later final answers) :
    Course r (event :: later) final (.ok (r.number? event) :: answers)

theorem prefix_stages_handleAll (r : AttemptRecord) (events : List AttemptEvent) :
    r.stages <+: (r.handleAll events).1.stages := by
  induction events generalizing r with
  | nil => exact List.prefix_rfl
  | cons event later ih =>
    refine List.IsPrefix.trans ?_ (ih (r.handle event).1)
    rw [stages_handle]
    exact List.prefix_append _ _

/-- Events take their course as long as fewer attempts begin than can be counted. -/
theorem course_handleAll (hcounted : r.attempts = r.stages.count .attempting)
    {events : List AttemptEvent}
    (hfew : (r.handleAll events).1.stages.count .attempting < words32) :
    Course r events (r.handleAll events).1 (r.handleAll events).2 := by
  induction events generalizing r with
  | nil => exact .nil
  | cons event later ih =>
    have hnow := (prefix_stages_handleAll (r.handle event).1 later).sublist.count_le .attempting
    cases hallows : r.stage.allows event.stage with
    | false =>
      have hhandle := handle_of_not_allows hallows
      simp only [handleAll, hhandle] at hfew ⊢
      exact .refused hallows (ih hcounted hfew)
    | true =>
      have hhandle := handle_of_allows (r := r) hallows (by
        rintro rfl
        rw [stages_handle, hallows, if_pos rfl, List.count_append, ← hcounted] at hnow
        exact Nat.lt_of_le_of_lt hnow hfew)
      simp only [handleAll, hhandle] at hfew ⊢
      exact .entered hallows (ih (counted_after hcounted event) hfew)

namespace Course

variable {final : AttemptRecord} {events : List AttemptEvent}
variable {answers : List (Except AttemptFault (Option Nat))}

theorem sound (h : Course r events final answers) (hr : r.Sound) : final.Sound := by
  induction h with
  | nil => exact hr
  | refused _ _ ih => exact ih hr
  | entered hallows _ ih => exact ih (hr.after hallows)

theorem attemptNumbers_eq (h : Course r events final answers) :
    ∃ count, final.attempts = r.attempts + count ∧
      attemptNumbers events answers = List.range' (r.attempts + 1) count := by
  induction h with
  | nil => exact ⟨0, rfl, rfl⟩
  | refused _ _ ih => simpa [attemptNumbers, Except.toOption] using ih
  | @entered r final event later answers _ _ ih =>
    obtain ⟨count, hattempts, hnumbers⟩ := ih
    by_cases hstart : event = .start
    · have hnext : (r.after event).attempts = r.attempts + 1 := by simp [after, hstart]
      rw [hnext] at hattempts hnumbers
      refine ⟨count + 1, by omega, ?_⟩
      rw [List.range'_succ, ← hnumbers]
      simp [attemptNumbers, number?, hstart, Except.toOption]
    · have hnext : (r.after event).attempts = r.attempts := by simp [after, hstart]
      rw [hnext] at hattempts hnumbers
      refine ⟨count, hattempts, ?_⟩
      rw [← hnumbers]
      simp [attemptNumbers, hstart]

/-- Nothing is refused exactly if every stage may follow the one before it. -/
theorem allEntered_iff (h : Course r events final answers) :
    AllEntered answers ↔
      (r.stage :: events.map AttemptEvent.stage).IsChain fun stage next => stage.allows next := by
  induction h with
  | nil => simp [AllEntered]
  | refused hallows _ _ => simp [AllEntered, List.isChain_cons_cons, hallows]
  | @entered r final event later answers hallows _ ih =>
    have hstage : (r.after event).stage = event.stage := by simp [after]
    rw [hstage] at ih
    rw [List.map_cons, List.isChain_cons_cons, ← ih]
    simp [AllEntered, hallows]

/-- If nothing is refused the history goes on with the stages of the events. -/
theorem stages_of_allEntered (h : Course r events final answers) (hall : AllEntered answers) :
    final.stages = r.stages ++ events.map AttemptEvent.stage := by
  induction h with
  | nil => simp
  | refused _ _ _ =>
    obtain ⟨number, hnumber⟩ := hall _ List.mem_cons_self
    cases hnumber
  | entered _ _ ih =>
    rw [ih fun answer hanswer => hall answer (List.mem_cons_of_mem _ hanswer)]
    simp [after]

end Course

/-- Nothing is entered into a history that has come to its end. -/
theorem handleAll_of_isTerminal (h : r.stage.isTerminal = true) (events : List AttemptEvent) :
    r.handleAll events = (r, events.map fun event => .error (r.refusal event)) := by
  induction events with
  | nil => rfl
  | cons event later ih =>
    have hhandle : r.handle event = (r, .error (r.refusal event)) :=
      handle_of_not_allows (AttemptStage.not_allows_of_isTerminal h _)
    simp only [handleAll, hhandle, ih, List.map_cons]

/-- Whatever happens to an invocation, an event whose stage may not follow is refused and leaves
the history as it was. As long as attempts can be counted the stages are a word of the language,
the counter is the number of attempts that began, and these got the numbers from one on; nothing
is refused exactly if the stages of the events make up a word. Nothing can be entered behind a
stage that an invocation ends in. -/
theorem handleAll_fresh (activity : String) (events : List AttemptEvent) :
    let r := ((fresh activity).handleAll events).1
    let answers := ((fresh activity).handleAll events).2
    (∀ event, r.stage.allows event.stage = false →
      r.handle event = (r, .error (.illegalTransition r.stage event.stage))) ∧
    (r.stages.count .attempting < words32 →
      r.stages ∈ AttemptStage.histories.matches' ∧
      r.attempts = r.stages.count .attempting ∧
      attemptNumbers events answers = List.range' 1 r.attempts ∧
      (AllEntered answers ↔
        .pending :: events.map AttemptEvent.stage ∈ AttemptStage.histories.matches') ∧
      (AllEntered answers → r.stages = .pending :: events.map AttemptEvent.stage)) ∧
    (r.stage.isTerminal = true → ∀ later, r.handleAll later =
      (r, later.map fun event => .error (.illegalTransition r.stage event.stage))) := by
  intro r answers
  refine ⟨fun event => handle_of_not_allows, ?_, handleAll_of_isTerminal⟩
  intro hfew
  have hcourse : Course (fresh activity) events r answers :=
    course_handleAll (sound_fresh activity).counted hfew
  have hsound := hcourse.sound (sound_fresh activity)
  obtain ⟨count, hattempts, hnumbers⟩ := hcourse.attemptNumbers_eq
  obtain rfl : r.attempts = count := by rw [hattempts]; exact Nat.zero_add count
  refine ⟨hsound.word, hsound.counted, hnumbers, ?_, hcourse.stages_of_allEntered⟩
  rw [hcourse.allEntered_iff, AttemptStage.mem_histories_iff_isChain]
  simp

/-- An attempt is retried and the next one succeeds. The success of an invocation that has not
begun is refused, and so is the attempt behind the success. -/
theorem handleAll_fresh_retried :
    let events : List AttemptEvent := [.succeed, .start, .retry, .start, .succeed, .start]
    let finish := (fresh "extract_text").handleAll events
    finish.1.stages = [.pending, .attempting, .retrying, .attempting, .succeeded] ∧
      finish.1.stages.count .attempting < words32 ∧
      finish.1.stages ∈ AttemptStage.histories.matches' ∧ attemptNumbers events finish.2 = [1, 2] ∧
      ¬ AllEntered finish.2 ∧ finish.1.stage.isTerminal = true ∧
      finish.1.handleAll [.fail] =
        (finish.1, [.error (.illegalTransition .succeeded .failedTerminal)]) := by
  intro events finish
  obtain ⟨-, hcounted, hends⟩ := handleAll_fresh "extract_text" events
  have hfew : finish.1.stages.count .attempting < words32 := by decide
  have hterminal : finish.1.stage.isTerminal = true := by decide
  obtain ⟨hword, -, hnumbers, -, hstages⟩ := hcounted hfew
  refine ⟨rfl, hfew, hword, hnumbers, ?_, hterminal, hends hterminal [.fail]⟩
  intro hall
  exact absurd (hstages hall) (by decide)

end AttemptRecord

end ActivityFlow
