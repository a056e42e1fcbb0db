import ActivityFlow.Proofs.FanOut.Order

/-!
# Policies of a fan-out

A policy reads the endings of a feed one by one until it stops. Its run is known from the
endings alone: it ends at the time of the ending at which the policy stops, and has performed
the endings up to this one and nothing else. The policy of a small fan-out stops at the first
failure. That of a large one stops when the results in front of the first failure of the input
are all there.
-/
namespace ActivityFlow

variable {σ α β φ τ : Type}

namespace Feed

/-- A policy that reads the events of a feed one by one. Each event either ends the whole or
is remembered. -/
structure Reader (σ ε β τ : Type) where
  read : τ → Feed σ ε → Routine σ β
  /-- What an event ends the whole with. -/
  stop? : τ → ε → Option β
  remember : τ → ε → τ
  read_emit : ∀ seen event next, read seen (.emit event next) =
    match stop? seen event with
    | some value => .done value
    | none => read (remember seen event) next
  read_pause : ∀ seen due turn next, read seen (.pause due turn next) =
    .pause due turn (read seen next)
  read_act : ∀ seen effect next, read seen (.act effect next) =
    .act effect fun clock state => read seen (next clock state)

/-- What is remembered after endings. -/
def Reader.memory (r : Reader σ (Nat × α) β τ) (seen : τ) (endings : List (Ending α)) : τ :=
  endings.foldl (fun seen e => r.remember seen (e.place, e.value)) seen

def perform (effect : Nat → σ → σ) (endings : List (Ending α)) (state : σ) : σ :=
  endings.foldl (fun state e => effect e.place state) state

/-- The policy passes over the first endings and stops at the one behind them. -/
structure Reader.StopsAt (r : Reader σ (Nat × α) β τ) (seen : τ) (before : List (Ending α))
    (last : Ending α) (value : β) : Prop where
  passes : ∀ init e later, before = init ++ e :: later →
    r.stop? (r.memory seen init) (e.place, e.value) = none
  stops : r.stop? (r.memory seen before) (last.place, last.value) = some value

/-- A run goes on until the policy stops. By then exactly the endings up to the last one
that the policy read have been performed. -/
def Reader.Explains (r : Reader σ (Nat × α) β τ) (effect : Nat → σ → σ) (seen : τ) (state : σ)
    (endings : List (Ending α)) (finish : Finish σ β) : Prop :=
  ∀ before last after value, endings = before ++ last :: after →
    r.StopsAt seen before last value →
    ∃ turn, finish = ⟨value, ⟨last.time, turn⟩, perform effect (before ++ [last]) state⟩

variable {effect : Nat → σ → σ} {feed : Feed σ (Nat × α)} {now : Nat}
variable {S : List (Ending α) → Prop} (r : Reader σ (Nat × α) β τ)

/-- Reading one more ending first. -/
theorem Reader.Explains.cons {place : Nat} {value : α} {next : Feed σ (Nat × α)} {seen : τ}
    {later : List (Ending α)} {clock : Clock} {state : σ}
    (h : r.Explains effect (r.remember seen (place, value)) (effect place state) later
      ((r.read (r.remember seen (place, value)) next).run clock (effect place state))) :
    r.Explains effect seen state (⟨clock.now, place, value⟩ :: later)
      ((r.read seen (.emit (place, value) next)).run clock (effect place state)) := by
  rintro before last after result hsplit ⟨hpasses, hstops⟩
  rw [r.read_emit]
  cases before with
  | nil =>
    obtain ⟨rfl, rfl⟩ : (⟨clock.now, place, value⟩ : Ending α) = last ∧ later = after := by
      simpa using hsplit
    have hsome : r.stop? seen (place, value) = some result := hstops
    rw [hsome]
    exact ⟨clock.turn, rfl⟩
  | cons first before =>
    obtain ⟨rfl, hlater⟩ : (⟨clock.now, place, value⟩ : Ending α) = first ∧
        later = before ++ last :: after := by simpa using hsplit
    have hnone : r.stop? seen (place, value) = none := hpasses [] _ before rfl
    rw [hnone]
    refine h before last after result hlater ⟨?_, hstops⟩
    rintro init e rest rfl
    exact hpasses (_ :: init) e rest rfl

/-- Every run of a policy on a feed is explained by endings that the feed can have. -/
theorem Emits.run_read (h : Emits effect feed now S) (seen : τ) (clock : Clock)
    (hclock : clock.now = now) (state : σ) :
    ∃ endings, S endings ∧ r.Explains effect seen state endings
      ((r.read seen feed).run clock state) := by
  induction h generalizing seen clock state with
  | ended none =>
    refine ⟨[], none, ?_⟩
    intro before last after value hsplit
    simp at hsplit
  | @emit now place value next S still rest ih =>
    subst hclock
    obtain ⟨later, hS, hlater⟩ := ih (r.remember seen (place, value)) clock rfl (effect place state)
    refine ⟨_, hS, ?_⟩
    have hcons := Reader.Explains.cons r hlater
    rw [still] at hcons
    exact hcons
  | @finish now place value next S rest ih =>
    subst hclock
    obtain ⟨later, hS, hlater⟩ := ih (r.remember seen (place, value))
      ⟨clock.now, clock.turn + 1⟩ rfl (effect place state)
    refine ⟨_, hS, ?_⟩
    rw [r.read_act]
    exact Reader.Explains.cons r hlater
  | look rest ih =>
    rw [r.read_act]
    exact ih clock state hclock seen ⟨clock.now, clock.turn + 1⟩ hclock state
  | @pause now due turn next S later rest ih =>
    rw [r.read_pause]
    exact ih seen ⟨max clock.now due, clock.turn⟩ (by simp; omega) state

/-! ## The two policies -/

/-- The first failure in the order of the input, if all results in front of it are there. -/
def settledFailure? (seen : List (Nat × Except φ α)) : Option φ :=
  firstSettledFailure seen 0 seen.length

/-- The policy of a small fan-out. -/
def earliest : Reader σ (Nat × Except φ α) (Except φ (List (Nat × α))) (List (Nat × α)) where
  read := untilFailure
  stop? _ event :=
    match event.2 with
    | .ok _ => none
    | .error failure => some (.error failure)
  remember seen event :=
    match event.2 with
    | .ok value => seen ++ [(event.1, value)]
    | .error _ => seen
  read_emit seen event next := by
    obtain ⟨place, result⟩ := event
    cases result with
    | ok value => rfl
    | error failure => rfl
  read_pause _ _ _ _ := rfl
  read_act _ _ _ := rfl

/-- The policy of a large fan-out. -/
def inInputOrder : Reader σ (Nat × Except φ α) (Except φ (List (Nat × Except φ α)))
    (List (Nat × Except φ α)) where
  read := untilOrderedFailure
  stop? seen event := (settledFailure? (seen ++ [event])).map .error
  remember seen event := seen ++ [event]
  read_emit seen event next := by
    rw [untilOrderedFailure]
    cases h : settledFailure? (seen ++ [event]) with
    | none =>
      rw [settledFailure?] at h
      simp only [h, Option.map]
    | some failure =>
      rw [settledFailure?] at h
      simp only [h, Option.map]
  read_pause _ _ _ _ := rfl
  read_act _ _ _ := rfl

/-- A small fan-out stops at the first failure of the feed. -/
theorem stopsAt_earliest {before : List (Ending (Except φ α))} {last : Ending (Except φ α)}
    {failure : φ} (hbefore : ∀ e ∈ before, ∃ value, e.value = .ok value)
    (hlast : last.value = .error failure) (seen : List (Nat × α)) :
    (earliest (σ := σ)).StopsAt seen before last (.error failure) := by
  refine ⟨?_, ?_⟩
  · rintro init e later rfl
    obtain ⟨value, hvalue⟩ := hbefore e (by simp)
    simp [earliest, hvalue]
  · simp [earliest, hlast]

theorem firstSettledFailure_eq_some {seen : List (Nat × Except φ α)} {failure : φ} {m : Nat}
    (place fuel : Nat) (hfuel : m < fuel) (hm : seen.lookup (place + m) = some (.error failure))
    (hbefore : ∀ j < m, ∃ value, seen.lookup (place + j) = some (.ok value)) :
    firstSettledFailure seen place fuel = some failure := by
  induction m generalizing place fuel with
  | zero =>
    obtain ⟨n, rfl⟩ : ∃ n, fuel = n + 1 := ⟨fuel - 1, by omega⟩
    rw [firstSettledFailure]
    simp only [Nat.add_zero] at hm
    simp [hm]
  | succ m ih =>
    obtain ⟨n, rfl⟩ : ∃ n, fuel = n + 1 := ⟨fuel - 1, by omega⟩
    obtain ⟨value, hvalue⟩ := hbefore 0 (by omega)
    rw [Nat.add_zero] at hvalue
    rw [firstSettledFailure, hvalue]
    refine ih (place + 1) n (by omega) ?_ ?_
    · rw [← hm]
      congr 1
      omega
    · intro j hj
      obtain ⟨v, hv⟩ := hbefore (j + 1) (by omega)
      exact ⟨v, by rw [← hv]; congr 1; omega⟩

theorem firstSettledFailure_eq_none {seen : List (Nat × Except φ α)} {m : Nat}
    (place fuel : Nat) (hm : seen.lookup (place + m) = none)
    (hbefore : ∀ j < m, ∀ failure, seen.lookup (place + j) ≠ some (.error failure)) :
    firstSettledFailure seen place fuel = none := by
  induction m generalizing place fuel with
  | zero =>
    rw [Nat.add_zero] at hm
    cases fuel with
    | zero => rfl
    | succ n => rw [firstSettledFailure, hm]
  | succ m ih =>
    cases fuel with
    | zero => rfl
    | succ n =>
      have hfirst := hbefore 0 (by omega)
      rw [Nat.add_zero] at hfirst
      rw [firstSettledFailure]
      cases hlookup : seen.lookup place with
      | none => rfl
      | some result =>
        cases result with
        | error failure => exact absurd hlookup (hfirst failure)
        | ok value =>
          refine ih (place + 1) n ?_ ?_
          · rw [← hm]
            congr 1
            omega
          · intro j hj failure
            have hj' := hbefore (j + 1) (by omega) failure
            rwa [show place + 1 + j = place + (j + 1) by omega]

def events (endings : List (Ending α)) : List (Nat × α) := endings.map fun e => (e.place, e.value)

theorem mem_of_lookup_events {endings : List (Ending α)} {place : Nat} {value : α}
    (h : (events endings).lookup place = some value) :
    ∃ e ∈ endings, e.place = place ∧ e.value = value := by
  obtain ⟨front, back, hsplit, -⟩ := List.lookup_eq_some_iff.mp h
  have hmem : (place, value) ∈ events endings := by
    rw [hsplit]
    simp
  obtain ⟨e, he, hpair⟩ := List.mem_map.mp hmem
  obtain ⟨hplace, hvalue⟩ := Prod.mk.inj hpair
  exact ⟨e, he, hplace, hvalue⟩

theorem lookup_events_eq_none {endings : List (Ending α)} {place : Nat}
    (h : ∀ e ∈ endings, e.place ≠ place) : (events endings).lookup place = none := by
  cases hlookup : (events endings).lookup place with
  | none => rfl
  | some value =>
    obtain ⟨e, he, hplace, -⟩ := mem_of_lookup_events hlookup
    exact absurd hplace (h e he)

theorem exists_lookup_events {endings : List (Ending α)} {e : Ending α} (h : e ∈ endings) :
    ∃ value, (events endings).lookup e.place = some value := by
  refine Option.isSome_iff_exists.mp (List.lookup_isSome_iff.mpr ?_)
  exact ⟨(e.place, e.value), List.mem_map.mpr ⟨e, h, rfl⟩, by simp⟩

theorem memory_inInputOrder (seen : List (Nat × Except φ α))
    (endings : List (Ending (Except φ α))) :
    (inInputOrder (σ := σ)).memory seen endings = seen ++ events endings := by
  induction endings generalizing seen with
  | nil => simp [Reader.memory, events]
  | cons e rest ih =>
    have hstep : (inInputOrder (σ := σ)).memory seen (e :: rest) =
        (inInputOrder (σ := σ)).memory (seen ++ [(e.place, e.value)]) rest := rfl
    rw [hstep, ih]
    simp [events]

theorem stop?_inInputOrder (endings : List (Ending (Except φ α))) (e : Ending (Except φ α)) :
    (inInputOrder (σ := σ)).stop? ((inInputOrder (σ := σ)).memory [] endings) (e.place, e.value) =
      (settledFailure? (events (endings ++ [e]))).map .error := by
  rw [memory_inInputOrder]
  simp [inInputOrder, events]

theorem lt_length_of_places {endings : List (Ending α)} {m : Nat}
    (h : ∀ place ≤ m, ∃ e ∈ endings, e.place = place) : m < endings.length := by
  have hsub : List.range (m + 1) ⊆ endings.map Ending.place := by
    intro place hplace
    obtain ⟨e, he, heq⟩ := h place (by simpa [Nat.lt_succ_iff] using hplace)
    exact List.mem_map.mpr ⟨e, he, heq⟩
  have hle := (List.subperm_of_subset List.nodup_range hsub).length_le
  rw [List.length_range, List.length_map] at hle
  exact hle

/-- A large fan-out stops as soon as the first failing future and all in front of it have
ended. -/
theorem stopsAt_inInputOrder {before : List (Ending (Except φ α))} {last : Ending (Except φ α)}
    {m : Nat} {failure : φ} (hlast : last.place ≤ m) (hnew : ∀ e ∈ before, e.place ≠ last.place)
    (hall : ∀ place ≤ m, ∃ e ∈ before ++ [last], e.place = place)
    (hfail : ∀ e ∈ before ++ [last], e.place = m → e.value = .error failure)
    (hok : ∀ e ∈ before ++ [last], e.place < m → ∃ value, e.value = .ok value) :
    (inInputOrder (σ := σ)).StopsAt [] before last (.error failure) := by
  refine ⟨?_, ?_⟩
  · rintro init e later rfl
    have hsub : ∀ x ∈ init ++ [e], x ∈ init ++ e :: later := by
      intro x hx
      rcases List.mem_append.mp hx with hx | hx
      · exact List.mem_append_left _ hx
      · simp [List.mem_singleton.mp hx]
    -- The ending that is still to come leaves a gap in the results.
    have hnone : settledFailure? (events (init ++ [e])) = none := by
      refine firstSettledFailure_eq_none (m := last.place) 0 _ ?_ ?_
      · rw [Nat.zero_add]
        exact lookup_events_eq_none fun x hx => hnew x (hsub x hx)
      · intro j hj f hlookup
        obtain ⟨x, hx, hplace, hvalue⟩ := mem_of_lookup_events hlookup
        obtain ⟨v, hv⟩ := hok x (List.mem_append_left _ (hsub x hx)) (by omega)
        rw [hv] at hvalue
        cases hvalue
    rw [stop?_inInputOrder, hnone]
    rfl
  · have hsome : settledFailure? (events (before ++ [last])) = some failure := by
      have hlookup : ∀ place ≤ m, ∃ e ∈ before ++ [last], e.place = place ∧
          (events (before ++ [last])).lookup place = some e.value := by
        intro place hplace
        obtain ⟨e, he, rfl⟩ := hall place hplace
        obtain ⟨value, hvalue⟩ := exists_lookup_events he
        obtain ⟨x, hx, hxplace, rfl⟩ := mem_of_lookup_events hvalue
        exact ⟨x, hx, hxplace, hvalue⟩
      refine firstSettledFailure_eq_some (m := m) 0 _ ?_ ?_ ?_
      · rw [events, List.length_map]
        exact lt_length_of_places hall
      · obtain ⟨e, he, hplace, hvalue⟩ := hlookup m (Nat.le_refl m)
        rw [Nat.zero_add, hvalue, hfail e he hplace]
      · intro j hj
        obtain ⟨e, he, hplace, hvalue⟩ := hlookup j (Nat.le_of_lt hj)
        obtain ⟨v, hv⟩ := hok e he (by omega)
        exact ⟨v, by rw [Nat.zero_add, hvalue, hv]⟩
    rw [stop?_inInputOrder, hsome]
    rfl

end Feed

end ActivityFlow
