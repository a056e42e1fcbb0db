import ActivityFlow.Failure.Codec
import ActivityFlow.Proofs.Engine.Attempts
import ActivityFlow.Proofs.Routine.SameCourse

/-!
# What an invocation sees of a failure

A failure carries a text, details and what was stored about retrying it. An invocation sees none of
these: it looks at the kind of a failure and at the number of the attempt. So where failures are
replaced by others of the same sort, an invocation takes the same course.
-/
namespace ActivityFlow

/-- Two failures are of the same sort: both diagnosed with one kind, both undiagnosed, or both
overdue after the same time. -/
inductive Failure.SameSort : Failure → Failure → Prop where
  | diagnosed {d e : Diagnosis} (h : d.kind = e.kind) : SameSort (.diagnosed d) (.diagnosed e)
  | undiagnosed (text other : String) : SameSort (.undiagnosed text) (.undiagnosed other)
  | timedOut (millis : Nat) : SameSort (.timedOut millis) (.timedOut millis)

theorem Failure.SameSort.refl (failure : Failure) : failure.SameSort failure := by
  cases failure with
  | diagnosed d => exact .diagnosed rfl
  | undiagnosed text => exact .undiagnosed text text
  | timedOut millis => exact .timedOut millis

theorem Failure.SameSort.kind?_eq {failure other : Failure} (h : failure.SameSort other) :
    other.kind? = failure.kind? := by
  cases h with
  | diagnosed h => simp only [kind?, h]
  | undiagnosed text other => rfl
  | timedOut millis => rfl

/-- Two outcomes are the same value, or failures of the same sort. -/
inductive SameOutcome : Outcome → Outcome → Prop where
  | ok (value : Json) : SameOutcome (.ok value) (.ok value)
  | error {failure other : Failure} (h : failure.SameSort other) :
    SameOutcome (.error failure) (.error other)

theorem SameOutcome.refl (outcome : Outcome) : SameOutcome outcome outcome := by
  cases outcome with
  | ok value => exact .ok value
  | error failure => exact .error (.refl failure)

theorem SameOutcome.exists_of_diagnosed {d : Diagnosis} {outcome : Outcome}
    (h : SameOutcome (.error (.diagnosed d)) outcome) :
    ∃ e : Diagnosis, outcome = .error (.diagnosed e) ∧ e.kind = d.kind := by
  cases h with
  | error h =>
    cases h with
    | diagnosed hkind => exact ⟨_, rfl, hkind.symm⟩

/-- An attempt that was cut off counts as the same failure in both places. -/
theorem SameOutcome.getD {result other : Option Outcome} (h : Option.Rel SameOutcome result other)
    (missing : Outcome) : SameOutcome (result.getD missing) (other.getD missing) := by
  cases h with
  | some h => exact h
  | none => exact .refl missing

/-- Whether an attempt follows depends on a failure through its kind only. -/
theorem RetryPolicy.retries_congr (p : RetryPolicy) {failure other : Failure}
    (h : other.kind? = failure.kind?) (attempt : Nat) :
    p.retries other attempt = p.retries failure attempt := by
  rw [retries, retries, h]

namespace Engine

open Routine (SameCourse)

variable {ω : Type}

theorem sameCourse_conclude (record : AttemptRecord) (last : AttemptStage) {outcome other : Outcome}
    (h : SameOutcome outcome other) :
    SameCourse SameOutcome (conclude (ω := ω) record last outcome) (conclude record last other) :=
  .act fun _ _ => .done h

theorem sameCourse_attemptFrom {work other : Routine ω Outcome}
    (h : SameCourse SameOutcome work other) (options : AttemptOptions) (remaining : Nat)
    (record : AttemptRecord) :
    SameCourse SameOutcome (attemptFrom work options remaining record)
      (attemptFrom other options remaining record) := by
  induction remaining generalizing record with
  | zero => exact .done (.refl _)
  | succ n ih =>
    rw [attemptFrom, attemptFrom]
    obtain ⟨begun, started⟩ := record.start
    cases started with
    | error fault => exact .done (.refl _)
    | ok attempt =>
      have hattempt := (h.focus Engine.world fun world (engine : Engine ω) =>
        { engine with world }).timeout options.timeout.ceilMillis
      refine hattempt.bind fun result otherResult hresult => ?_
      have houtcome := SameOutcome.getD hresult (.error (overdue options.timeout))
      generalize result.getD (.error (overdue options.timeout)) = outcome at houtcome ⊢
      generalize otherResult.getD (.error (overdue options.timeout)) = otherOutcome at houtcome ⊢
      cases houtcome with
      | ok value => exact sameCourse_conclude begun .succeeded (.ok value)
      | error hsort =>
        simp only [options.retry.retries_congr hsort.kind?_eq]
        split_ifs
        · exact (SameCourse.refl (V := Eq) (fun _ => rfl) _).bind fun _ _ _ => ih _
        · exact sameCourse_conclude begun .failedTerminal (.error hsort)

theorem sameCourse_invoke {activity other : Activity ω} {call : Call}
    (h : SameCourse SameOutcome (activity call) (other call)) (options : AttemptOptions) :
    SameCourse SameOutcome (invoke activity call options) (invoke other call options) :=
  sameCourse_attemptFrom h options _ _

end Engine

/-- Two scripts tell of the same work: every run takes the same time, and comes out the same but for
what failures of one sort may differ in. -/
def Script.SameWork (script other : Script) : Prop :=
  ∀ attempt, (other attempt).millis = (script attempt).millis ∧
    SameOutcome (script attempt).outcome (other attempt).outcome

theorem Script.SameWork.sameCourse_activity {script other : Script} (h : script.SameWork other)
    (call : Call) :
    Routine.SameCourse SameOutcome (script.activity call) (other.activity call) := by
  refine (Routine.SameCourse.refl (V := Eq) (fun _ => rfl) _).bind ?_
  rintro run _ rfl
  rw [(h run).1]
  exact (Routine.SameCourse.refl (V := Eq) (fun _ => rfl) _).map fun _ _ _ => (h run).2

namespace Engine

/-- Where failures of a script are replaced by others of the same sort, an invocation begins the
same runs at the same times, has the same history and ends at the same time, with the same value or
with a failure of the same sort. It also does so up to any time before its end. Whether an attempt
follows depends on a failure through its kind and on the number of the attempt alone. -/
theorem run_invoke_of_sameWork (script other : Script) (h : script.SameWork other)
    (options : AttemptOptions) (call : Call) (clock : Clock) (engine : Engine (List Begun)) :
    let finish (s : Script) := (invoke s.activity call options).run clock engine
    let cut (millis : Nat) (s : Script) :=
      (Routine.timeout millis (invoke s.activity call options)).run clock engine
    ((finish other).state.world = (finish script).state.world ∧
      (finish other).state.history = (finish script).state.history ∧
      (finish other).clock = (finish script).clock ∧
      SameOutcome (finish script).value (finish other).value) ∧
    (∀ millis, (cut millis other).state.world = (cut millis script).state.world ∧
      (cut millis other).state.history = (cut millis script).state.history ∧
      (cut millis other).clock = (cut millis script).clock ∧
      Option.Rel SameOutcome (cut millis script).value (cut millis other).value) ∧
    ∀ failure replaced attempt, Failure.kind? replaced = Failure.kind? failure →
      options.retry.retries replaced attempt = options.retry.retries failure attempt := by
  intro finish cut
  have hcourse : Routine.SameCourse SameOutcome (invoke script.activity call options)
      (invoke other.activity call options) :=
    sameCourse_invoke (h.sameCourse_activity call) options
  refine ⟨?_, fun millis => ?_, fun failure replaced attempt hkind =>
    options.retry.retries_congr hkind attempt⟩
  · obtain ⟨hvalue, hclock, hstate⟩ := hcourse.run clock engine
    exact ⟨congrArg Engine.world hstate, congrArg Engine.history hstate, hclock, hvalue⟩
  · obtain ⟨hvalue, hclock, hstate⟩ := (hcourse.timeout millis).run clock engine
    exact ⟨congrArg Engine.world hstate, congrArg Engine.history hstate, hclock, hvalue⟩

/-- Three runs, the first without a diagnosis, the second with a kind that is not final, and the
third with one that is. The replaced failures have other texts and details and are marked the other
way round: the last one was read from a document that calls it worth retrying. -/
theorem run_invoke_of_sameWork_three :
    let read := Failure.decode (.object [("fields", .object [("host", .text "studio")]),
      ("kind", .text "TokenExpiredError"), ("message", .text "signed out"),
      ("retryable", .bool true), ("type", .text "classified")])
    let marked : Diagnosis := ⟨.tokenExpired, "signed out", true, [("host", .text "studio")]⟩
    let script : Script := fun i =>
      if i = 1 then ⟨10, .error (.undiagnosed "connection reset")⟩
      else if i = 2 then ⟨20, .error (.diagnosed ⟨.documentNotFound, "no doc-1", true, []⟩)⟩
      else ⟨30, .error (.diagnosed (.tokenExpired "expired"))⟩
    let other : Script := fun i =>
      if i = 1 then ⟨10, .error (.undiagnosed "")⟩
      else if i = 2 then ⟨20, .error (.diagnosed (.documentNotFound ["doc-1"] "gone"))⟩
      else ⟨30, .error (.diagnosed marked)⟩
    let options : AttemptOptions :=
      ⟨.seconds 1, { RetryPolicy.standard with finalKinds := [.tokenExpired] }⟩
    let call : Call := ⟨default, "ingest", "extract_text", []⟩
    let finish := (invoke other.activity call options).run ⟨0, 0⟩ ⟨256, [], []⟩
    script.SameWork other ∧ read = .ok (.diagnosed marked) ∧
      (∃ d : Diagnosis, finish.value = .error (.diagnosed d) ∧ d.kind = .tokenExpired) ∧
      finish.state.world = [⟨call, 0⟩, ⟨call, 1010⟩, ⟨call, 3030⟩] ∧ finish.clock.now = 3060 ∧
      finish.state.history = [⟨"extract_text", 3, [.pending, .attempting, .retrying, .attempting,
        .retrying, .attempting, .failedTerminal]⟩] := by
  intro read marked script other options call finish
  have hsame : script.SameWork other := by
    intro attempt
    simp only [script, other]
    split_ifs
    · exact ⟨rfl, .error (.undiagnosed ..)⟩
    · exact ⟨rfl, .error (.diagnosed rfl)⟩
    · exact ⟨rfl, .error (.diagnosed rfl)⟩
  have hfirst : script.verdict options 1 = .error (.undiagnosed "connection reset") := by
    decide +kernel
  have hsecond : script.verdict options 2 =
      .error (.diagnosed ⟨.documentNotFound, "no doc-1", true, []⟩) := by decide +kernel
  have hthird : script.verdict options 3 = .error (.diagnosed (.tokenExpired "expired")) := by
    decide +kernel
  have hlast : script.IsLast options 3 := by
    refine ⟨⟨by decide, by decide, .inr (.inl ⟨_, hthird, by decide⟩)⟩, ?_⟩
    rintro i ⟨h1, -, hi⟩
    by_contra hlt
    obtain rfl | rfl : i = 1 ∨ i = 2 := by omega
    · exact script.not_isFinal_of_kind?_eq_none options hfirst rfl (by decide) hi
    · refine script.not_isFinal_of_kind? options hsecond (fun kind hkind => ?_) (by decide) hi
      obtain rfl := Option.some.inj hkind
      decide
  obtain ⟨⟨hworld, hhistory, hclock, hvalue⟩, -, -⟩ :=
    run_invoke_of_sameWork script other hsame options call ⟨0, 0⟩ ⟨256, [], []⟩
  simp only [run_invoke_of_isLast script options call 256 [] ⟨0, 0⟩ 2 hlast, hthird]
    at hworld hhistory hclock hvalue
  have htwo : script.beginsAt options 0 2 = 1010 := by decide +kernel
  have hthree : script.beginsAt options 0 3 = 3030 := by decide +kernel
  refine ⟨hsame, rfl, ?_, ?_, ?_, hhistory⟩
  · exact hvalue.exists_of_diagnosed
  · rw [← htwo, ← hthree]
    exact hworld
  · have hend : finish.clock.now = script.beginsAt options 0 3 + script.lasting options 3 :=
      congrArg Clock.now hclock
    rw [hend, hthree]
    decide +kernel

end Engine

end ActivityFlow
