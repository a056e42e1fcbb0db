import ActivityFlow.Proofs.FanOut.Policy
import ActivityFlow.Proofs.Routine.InStep

/-!
# Feeds in step

Merging routines in step gives feeds in step, which a policy reads alike. Every entry of the log
comes from one of the routines, and what comes from one routine satisfies its specification,
however the routines take turns. The specification of a routine that is cut off by the end of
the whole says what it may have written by then.
-/
namespace ActivityFlow

variable {σ τ ε α β μ : Type}

/-- What may be in the log of a feed, each entry with the place of the routine that wrote it,
while the feed has emitted some events, and when it is over. -/
abbrev FeedSpec (ε α : Type) := List (Nat × ε) → List (Nat × α) → Bool → Prop

def entriesAt (place : Nat) (entries : List (Nat × ε)) : List ε :=
  entries.filterMap fun e => if e.1 = place then some e.2 else none

@[simp] theorem entriesAt_nil (place : Nat) : entriesAt place ([] : List (Nat × ε)) = [] := rfl

@[simp] theorem entriesAt_append (place : Nat) (first later : List (Nat × ε)) :
    entriesAt place (first ++ later) = entriesAt place first ++ entriesAt place later := by
  simp [entriesAt]

@[simp] theorem entriesAt_map (place : Nat) (entries : List ε) :
    entriesAt place (entries.map fun e => (place, e)) = entries := by
  simp [entriesAt, List.filterMap_map]

theorem entriesAt_eq_nil {place : Nat} {entries : List (Nat × ε)}
    (h : ∀ e ∈ entries, e.1 ≠ place) : entriesAt place entries = [] := by
  rw [entriesAt, List.filterMap_eq_nil_iff]
  intro e he
  rw [if_neg (h e he)]

/-- Entries and events of the places other than one. -/
def elsewhere (place : Nat) (entries : List (Nat × ε)) : List (Nat × ε) :=
  entries.filter fun e => e.1 ≠ place

theorem elsewhere_eq_self {place : Nat} {entries : List (Nat × ε)}
    (h : ∀ e ∈ entries, e.1 ≠ place) : elsewhere place entries = entries := by
  rw [elsewhere, List.filter_eq_self]
  intro e he
  simpa using h e he

@[simp] theorem elsewhere_nil (place : Nat) : elsewhere place ([] : List (Nat × ε)) = [] := rfl

@[simp] theorem elsewhere_append (place : Nat) (first later : List (Nat × ε)) :
    elsewhere place (first ++ later) = elsewhere place first ++ elsewhere place later := by
  simp [elsewhere]

@[simp] theorem elsewhere_map (place : Nat) (entries : List ε) :
    elsewhere place (entries.map fun e => (place, e)) = [] := by
  simp [elsewhere]

theorem entriesAt_elsewhere {place other : Nat} (h : place ≠ other) (entries : List (Nat × ε)) :
    entriesAt place (elsewhere other entries) = entriesAt place entries := by
  rw [entriesAt, elsewhere, List.filterMap_filter]
  refine List.filterMap_congr ?_
  intro e _
  by_cases hplace : e.1 = place
  · simp [hplace, h]
  · simp [hplace]

theorem lookup_eq_head? (place : Nat) (events : List (Nat × α)) :
    events.lookup place = (entriesAt place events).head? := by
  induction events with
  | nil => rfl
  | cons e rest ih =>
    obtain ⟨other, value⟩ := e
    by_cases hplace : other = place
    · simp [entriesAt, hplace]
    · have hne : (place == other) = false := by simpa using Ne.symm hplace
      rw [List.lookup_cons, hne, ih]
      simp [entriesAt, hplace]

theorem lookup_map {β : Type} (f : α → β) (events : List (Nat × α)) (place : Nat) :
    (events.map fun e => (e.1, f e.2)).lookup place = (events.lookup place).map f := by
  rw [lookup_eq_head?, lookup_eq_head?, ← List.head?_map]
  congr 1
  simp only [entriesAt, List.filterMap_map, List.map_filterMap]
  refine List.filterMap_congr ?_
  intro e _
  by_cases he : e.1 = place <;> simp [he]

theorem mem_entriesAt {place : Nat} {e : ε} {entries : List (Nat × ε)} :
    e ∈ entriesAt place entries ↔ (place, e) ∈ entries := by
  simp only [entriesAt, List.mem_filterMap]
  constructor
  · rintro ⟨⟨other, e'⟩, hmem, he⟩
    by_cases hplace : other = place
    · simp only [hplace, if_true, Option.some.injEq] at he
      rwa [← hplace, ← he]
    · simp [hplace] at he
  · intro hmem
    exact ⟨(place, e), hmem, by simp⟩

namespace FeedSpec

variable {place : Nat} {S : LogSpec ε α} {F : FeedSpec ε α} {entries : List (Nat × ε)}
variable {events : List (Nat × α)} {closed : Bool}

/-- What is still to be written after some entries. -/
def after (F : FeedSpec ε α) (entries : List (Nat × ε)) : FeedSpec ε α :=
  fun later => F (entries ++ later)

/-- What is still to be emitted after an event. -/
def emitted (F : FeedSpec ε α) (event : Nat × α) : FeedSpec ε α :=
  fun entries events => F entries (event :: events)

/-- Nothing is written or emitted at a place. -/
def Avoids (F : FeedSpec ε α) (place : Nat) : Prop :=
  ∀ entries events closed, F entries events closed →
    (∀ e ∈ entries, e.1 ≠ place) ∧ ∀ e ∈ events, e.1 ≠ place

theorem Avoids.after (h : F.Avoids place) (first : List (Nat × ε)) :
    (F.after first).Avoids place := by
  intro later events closed hF
  obtain ⟨hentries, hevents⟩ := h _ _ _ hF
  exact ⟨fun e he => hentries e (List.mem_append_right _ he), hevents⟩

theorem Avoids.emitted (h : F.Avoids place) (event : Nat × α) : (F.emitted event).Avoids place := by
  intro entries events closed hF
  obtain ⟨hentries, hevents⟩ := h _ _ _ hF
  exact ⟨hentries, fun e he => hevents e (List.mem_cons_of_mem _ he)⟩

/-- What a routine writes at a place, and the event of its end if it has ended. -/
def At (place : Nat) (S : LogSpec ε α) (entries : List (Nat × ε)) (events : List (Nat × α))
    (closed : Bool) : Prop :=
  ∃ value, S (entriesAt place entries) value ∧ entriesAt place events = value.toList ∧
    (closed = true → value.isSome)

/-- A routine at a place beside a feed that avoids the place. -/
def Beside (F : FeedSpec ε α) (place : Nat) (S : LogSpec ε α) : FeedSpec ε α :=
  fun entries events closed => At place S entries events closed ∧
    F (elsewhere place entries) (elsewhere place events) closed

theorem Beside.now (hS : S [] none) (hF : F [] [] false) : F.Beside place S [] [] false :=
  ⟨⟨none, hS, rfl, by simp⟩, hF⟩

/-- The feed beside the routine writes first. -/
theorem Beside.of_after {first : List (Nat × ε)} (hfirst : ∀ e ∈ first, e.1 ≠ place)
    (h : (F.after first).Beside place S entries events closed) :
    F.Beside place S (first ++ entries) events closed := by
  obtain ⟨hat, hF⟩ := h
  constructor
  · simpa [At, entriesAt_eq_nil hfirst] using hat
  · simpa [FeedSpec.after, elsewhere_eq_self hfirst] using hF

/-- The feed beside the routine emits an event first. -/
theorem Beside.of_emitted {event : Nat × α} (hevent : event.1 ≠ place)
    (h : (F.emitted event).Beside place S entries events closed) :
    F.Beside place S entries (event :: events) closed := by
  obtain ⟨hat, hF⟩ := h
  have hone : ∀ e ∈ [event], e.1 ≠ place := by simpa using hevent
  rw [← List.singleton_append]
  constructor
  · simpa only [At, entriesAt_append, entriesAt_eq_nil hone, List.nil_append] using hat
  · rw [elsewhere_append, elsewhere_eq_self hone]
    exact hF

theorem Beside.of_written {first : List ε}
    (h : F.Beside place (S.after first) entries events closed) :
    F.Beside place S (first.map (fun e => (place, e)) ++ entries) events closed := by
  simpa [Beside, At, LogSpec.after] using h

/-- The routine has ended, and the feed goes on alone. -/
theorem Beside.of_ended {value : α} (hS : S [] (some value)) (hF : F.Avoids place)
    (h : F entries events closed) : F.Beside place S entries ((place, value) :: events) closed := by
  obtain ⟨hentries, hevents⟩ := hF _ _ _ h
  rw [← List.singleton_append]
  refine ⟨⟨some value, ?_, ?_, by simp⟩, ?_⟩
  · rwa [entriesAt_eq_nil hentries]
  · rw [entriesAt_append, entriesAt_eq_nil hevents]
    simp [entriesAt]
  · rw [elsewhere_append, elsewhere_eq_self hentries, elsewhere_eq_self hevents]
    simpa [elsewhere] using h

/-- Routines at the places from `first` up to `last`, side by side. -/
structure Each (S : Nat → LogSpec ε α) (first last : Nat) (entries : List (Nat × ε))
    (events : List (Nat × α)) (closed : Bool) : Prop where
  entry_mem : ∀ e ∈ entries, first ≤ e.1 ∧ e.1 < last
  event_mem : ∀ e ∈ events, first ≤ e.1 ∧ e.1 < last
  spec : ∀ place, first ≤ place → place < last → At place (S place) entries events closed

theorem Each.avoids (S : Nat → LogSpec ε α) (first last : Nat) :
    Avoids (Each S (first + 1) last) first := by
  intro entries events closed h
  constructor
  · intro e he
    have := (h.entry_mem e he).1
    omega
  · intro e he
    have := (h.event_mem e he).1
    omega

/-- One more routine in front of routines side by side. -/
theorem Each.of_beside {S : Nat → LogSpec ε α} {first last : Nat} (hlt : first < last)
    (h : Beside (Each S (first + 1) last) first (S first) entries events closed) :
    Each S first last entries events closed := by
  obtain ⟨hat, hrest⟩ := h
  refine ⟨?_, ?_, ?_⟩
  · intro e he
    by_cases hfirst : e.1 = first
    · omega
    · have := hrest.entry_mem e (by simp [elsewhere, he, hfirst])
      omega
  · intro e he
    by_cases hfirst : e.1 = first
    · omega
    · have := hrest.event_mem e (by simp [elsewhere, he, hfirst])
      omega
  · intro place hle hplace
    by_cases hfirst : place = first
    · subst hfirst
      exact hat
    · have := hrest.spec place (by omega) hplace
      simpa only [At, entriesAt_elsewhere hfirst] using this

end FeedSpec

namespace Feed

/-- Two feeds go in step: they keep their states related by `R`, and what the second one
writes and both emit satisfies `F`. -/
inductive InStep (R : σ → τ → Prop) (log : τ → List ε) :
    Feed σ (Nat × α) → Feed τ (Nat × α) → FeedSpec ε α → Prop where
  | ended {F : FeedSpec ε α} (now : F [] [] false) (ends : F [] [] true) :
    InStep R log .over .over F
  | emit {event : Nat × α} {x : Feed σ (Nat × α)} {y : Feed τ (Nat × α)} {F : FeedSpec ε α}
    (now : F [] [] false) (rest : InStep R log x y (F.emitted event)) :
    InStep R log (.emit event x) (.emit event y) F
  | pause {due turn : Nat} {x : Feed σ (Nat × α)} {y : Feed τ (Nat × α)} {F : FeedSpec ε α}
    (now : F [] [] false) (rest : InStep R log x y F) :
    InStep R log (.pause due turn x) (.pause due turn y) F
  | act {effect : Clock → σ → σ} {effect' : Clock → τ → τ} {x : Clock → σ → Feed σ (Nat × α)}
    {y : Clock → τ → Feed τ (Nat × α)} {F : FeedSpec ε α}
    (written : Clock → τ → List (Nat × ε)) (now : F [] [] false)
    (keeps : ∀ clock s t, R s t → R (effect clock s) (effect' clock t))
    (writes : ∀ clock s t, R s t →
      log (effect' clock t) = log t ++ (written clock t).map Prod.snd)
    (rest : ∀ clock s t, R s t → InStep R log (x clock s) (y clock t) (F.after (written clock t))) :
    InStep R log (.act effect x) (.act effect' y) F

variable {R : σ → τ → Prop} {log : τ → List ε} {p : Routine σ α} {q : Routine τ α}
variable {x : Feed σ (Nat × α)} {y : Feed τ (Nat × α)} {S : LogSpec ε α} {F G : FeedSpec ε α}

namespace InStep

theorem now (h : InStep R log x y F) : F [] [] false := by
  cases h with
  | ended now _ => exact now
  | emit now _ => exact now
  | pause now _ => exact now
  | act _ now _ _ _ => exact now

theorem mono (h : InStep R log x y F)
    (himp : ∀ entries events closed, F entries events closed → G entries events closed) :
    InStep R log x y G := by
  induction h generalizing G with
  | ended now ends => exact .ended (himp _ _ _ now) (himp _ _ _ ends)
  | emit now rest ih => exact .emit (himp _ _ _ now) (ih fun entries events => himp entries _)
  | pause now rest ih => exact .pause (himp _ _ _ now) (ih himp)
  | act written now keeps writes rest ih =>
    exact .act written (himp _ _ _ now) keeps writes fun clock s t hR =>
      ih clock s t hR fun later events => himp _ events

end InStep

/-! ## Merging -/

variable {precedence : Precedence} {place : Nat}

/-- While one routine is paused the feed beside it goes on. -/
theorem inStep_mergePaused {due turn : Nat} {resume : Feed σ (Nat × α) → Feed σ (Nat × α)}
    {resume' : Feed τ (Nat × α) → Feed τ (Nat × α)}
    (hresume : ∀ {x y F}, InStep R log x y F → F.Avoids place →
      InStep R log (resume x) (resume' y) (F.Beside place S))
    (hS : S [] none) (h : InStep R log x y F) (hF : F.Avoids place) :
    InStep R log (mergePaused precedence due turn resume x)
      (mergePaused precedence due turn resume' y) (F.Beside place S) := by
  induction h with
  | ended now ends =>
    rw [mergePaused, mergePaused]
    exact .pause (.now hS now) (hresume (.ended now ends) hF)
  | @emit event x y F now rest ih =>
    rw [mergePaused, mergePaused]
    have hevent : event.1 ≠ place := (hF _ _ _ rest.now).2 event (by simp)
    refine .emit (.now hS now) ((ih (hF.emitted event)).mono ?_)
    intro entries events closed
    exact FeedSpec.Beside.of_emitted hevent
  | @pause due' turn' x y F now rest ih =>
    rw [mergePaused, mergePaused]
    by_cases hfirst : precedence.leftFirst due turn due' turn' = true
    · rw [if_pos hfirst, if_pos hfirst]
      exact .pause (.now hS now) (hresume (.pause now rest) hF)
    · rw [if_neg hfirst, if_neg hfirst]
      exact .pause (.now hS now) (ih hF)
  | act written now keeps writes rest ih =>
    rw [mergePaused, mergePaused]
    refine .act written (.now hS now) keeps writes ?_
    intro clock s t hR
    have hwritten : ∀ e ∈ written clock t, e.1 ≠ place := by
      simpa using (hF _ _ _ (rest clock s t hR).now).1
    refine (ih clock s t hR (hF.after _)).mono ?_
    intro entries events closed
    exact FeedSpec.Beside.of_after hwritten

/-- Merging one routine with a feed. -/
theorem inStep_merge (hp : Routine.InStep R log p q S) (h : InStep R log x y F)
    (hF : F.Avoids place) :
    InStep R log (merge precedence (ofRoutine place p) x) (merge precedence (ofRoutine place q) y)
      (F.Beside place S) := by
  induction hp generalizing x y F with
  | done now ends =>
    refine .emit (.now now h.now) (h.mono ?_)
    intro entries events closed
    exact FeedSpec.Beside.of_ended ends hF
  | pause now rest ih =>
    exact inStep_mergePaused (fun h hF => ih h hF) now h hF
  | act written now keeps writes rest ih =>
    refine .act (fun clock t => (written clock t).map fun e => (place, e)) (.now now h.now) keeps
      ?_ ?_
    · intro clock s t hR
      simpa [Function.comp_def] using writes clock s t hR
    · intro clock s t hR
      refine (ih clock s t hR h hF).mono ?_
      intro entries events closed
      exact FeedSpec.Beside.of_written

/-- Merging routines in step, each with the specification of its place. -/
theorem inStep_mergeFrom (precedence : Precedence) {S : Nat → LogSpec ε α}
    {ps : List (Routine σ α)} {qs : List (Routine τ α)} (index : Nat)
    (hlength : ps.length = qs.length)
    (h : ∀ i p q, ps[i]? = some p → qs[i]? = some q → Routine.InStep R log p q (S (index + i))) :
    InStep R log (mergeFrom precedence index ps) (mergeFrom precedence index qs)
      (FeedSpec.Each S index (index + ps.length)) := by
  induction ps generalizing qs index with
  | nil =>
    obtain rfl : qs = [] := List.eq_nil_of_length_eq_zero hlength.symm
    have hnone : ∀ closed, FeedSpec.Each S index (index + 0) [] [] closed := by
      intro closed
      refine ⟨by simp, by simp, ?_⟩
      intro place hle hlt
      omega
    exact .ended (hnone false) (hnone true)
  | cons p ps ih =>
    cases qs with
    | nil => simp at hlength
    | cons q qs =>
      have hrest := @ih qs (index + 1) (by simpa using hlength) fun i p q hp hq => by
        have := h (i + 1) p q (by simpa using hp) (by simpa using hq)
        rwa [Nat.add_assoc, Nat.add_comm 1 i]
      have hlast : index + 1 + ps.length = index + (p :: ps).length := by
        simp only [List.length_cons]
        omega
      rw [hlast] at hrest
      refine (inStep_merge (h 0 p q rfl rfl) hrest (FeedSpec.Each.avoids S index _)).mono ?_
      intro entries events closed
      exact FeedSpec.Each.of_beside (by simp)

/-! ## Reading -/

/-- A policy reads the events of a feed until it stops or the feed is over. -/
inductive Reader.Decides (r : Reader τ (Nat × α) β μ) (finish : μ → β) :
    μ → List (Nat × α) → Bool → β → Prop where
  | ended {seen : μ} : Decides r finish seen [] true (finish seen)
  | stop {seen : μ} {event : Nat × α} {value : β} (h : r.stop? seen event = some value) :
    Decides r finish seen [event] false value
  | pass {seen : μ} {event : Nat × α} {events : List (Nat × α)} {closed : Bool} {value : β}
    (h : r.stop? seen event = none)
    (rest : Decides r finish (r.remember seen event) events closed value) :
    Decides r finish seen (event :: events) closed value

/-- What a policy leaves of the specification of a feed: the log without its places, and a
value that is decided by the events. -/
def Reader.Spec (r : Reader τ (Nat × α) β μ) (finish : μ → β) (seen : μ) (F : FeedSpec ε α) :
    LogSpec ε β := fun entries value =>
  ∃ tagged events closed, tagged.map Prod.snd = entries ∧ F tagged events closed ∧
    ∀ b, value = some b → r.Decides finish seen events closed b

/-- A policy reads feeds in step alike. -/
theorem Reader.inStep (r : Reader σ (Nat × α) β μ) (r' : Reader τ (Nat × α) β μ)
    (finish : μ → β) (hstop : r.stop? = r'.stop?) (hremember : r.remember = r'.remember)
    (hover : ∀ seen, r.read seen .over = .done (finish seen))
    (hover' : ∀ seen, r'.read seen .over = .done (finish seen))
    (h : InStep R log x y F) (seen : μ) :
    Routine.InStep R log (r.read seen x) (r'.read seen y) (r'.Spec finish seen F) := by
  induction h generalizing seen with
  | ended now ends =>
    rw [hover, hover']
    refine .done ⟨[], [], false, rfl, now, by simp⟩ ⟨[], [], true, rfl, ends, ?_⟩
    rintro b hb
    obtain rfl : finish seen = b := by simpa using hb
    exact .ended
  | @emit event x y F now rest ih =>
    rw [r.read_emit, r'.read_emit, hstop, hremember]
    cases hcase : r'.stop? seen event with
    | some value =>
      refine .done ⟨[], [], false, rfl, now, by simp⟩ ⟨[], [event], false, rfl, rest.now, ?_⟩
      rintro b hb
      obtain rfl : value = b := by simpa using hb
      exact .stop hcase
    | none =>
      refine (ih (r'.remember seen event)).mono ?_
      rintro entries value ⟨tagged, events, closed, htagged, hF, hdecides⟩
      exact ⟨tagged, event :: events, closed, htagged, hF, fun b hb => .pass hcase (hdecides b hb)⟩
  | pause now rest ih =>
    rw [r.read_pause, r'.read_pause]
    exact .pause ⟨[], [], false, rfl, now, by simp⟩ (ih seen)
  | act written now keeps writes rest ih =>
    rw [r.read_act, r'.read_act]
    refine .act (fun clock t => (written clock t).map Prod.snd) ⟨[], [], false, rfl, now, by simp⟩
      keeps writes ?_
    intro clock s t hR
    refine (ih clock s t hR seen).mono ?_
    rintro entries value ⟨tagged, events, closed, rfl, hF, hdecides⟩
    exact ⟨written clock t ++ tagged, events, closed, by simp, hF, hdecides⟩

end Feed

end ActivityFlow
