import ActivityFlow.Sources
import ActivityFlow.Proofs.FanOut.Results

/-!
# Noting stores

What a store is asked to do is known from notes: each operation on a noting store is written down
when it begins and when it ends, and the store does what it did before. From the notes of
operations that run side by side it can be told how often each was made and what came of it.
-/
namespace ActivityFlow

/-! ## Notes -/

/-- What a store is asked to do. -/
inductive StoreOperation where
  | find (collection : String) (query : CollectionQuery)
  | retrieve (collection id : String) (select : Option String)

/-- What is noted of an operation. Of an operation that finds records the outcome is an array. -/
inductive StoreEvent where
  | began (operation : StoreOperation)
  | ended (operation : StoreOperation) (outcome : Outcome)

namespace StoreEvent

/-- The operation that an event belongs to. -/
def operation : StoreEvent → StoreOperation
  | began operation => operation
  | ended operation _ => operation

/-- The operation that an event is the beginning of. -/
def begun? : StoreEvent → Option StoreOperation
  | began operation => some operation
  | ended _ _ => none

end StoreEvent

/-- The operations that were begun, in the order of their beginnings. -/
def operationsBegun (log : List StoreEvent) : List StoreOperation :=
  log.filterMap StoreEvent.begun?

/-- What is noted of one operation, with its outcome if it has ended. -/
inductive OperationLog (operation : StoreOperation) : List StoreEvent → Option Outcome → Prop
  | unbegun : OperationLog operation [] none
  | underway : OperationLog operation [.began operation] none
  | ended (outcome : Outcome) :
    OperationLog operation [.began operation, .ended operation outcome] (some outcome)

section noting

variable {ω α : Type}

/-- Writes an event down beside the world. -/
def noteEvent (event : StoreEvent) : Routine (ω × List StoreEvent) Unit :=
  Routine.modify fun noted => (noted.1, noted.2 ++ [event])

def noteEnd (operation : StoreOperation) (answer : α → Json) (p : Routine ω (Except Failure α)) :
    Routine (ω × List StoreEvent) (Except Failure α) :=
  (p.focus Prod.fst fun world noted => (world, noted.2)).bind fun outcome =>
    (noteEvent (.ended operation (outcome.map answer))).bind fun _ => .done outcome

/-- Runs an operation on the world and notes its beginning and its end. -/
def noteOperation (operation : StoreOperation) (answer : α → Json)
    (p : Routine ω (Except Failure α)) : Routine (ω × List StoreEvent) (Except Failure α) :=
  (noteEvent (.began operation)).bind fun _ => noteEnd operation answer p

/-- The store that does what the given one does and notes it. -/
def Store.noting (store : Store ω) : Store (ω × List StoreEvent) where
  find collection query :=
    noteOperation (.find collection query) .array (store.find collection query)
  retrieve collection id select :=
    noteOperation (.retrieve collection id select) (fun record => record)
      (store.retrieve collection id select)

theorem inStep_noteEvent (event : StoreEvent) :
    Routine.InStep Eq Prod.snd (noteEvent (ω := ω) event) (noteEvent event)
      fun entries result => entries = [] ∧ result = none ∨ entries = [event] := by
  refine .transact (fun _ _ => [event]) (.inl ⟨rfl, rfl⟩) ?_ (fun _ _ _ _ => rfl)
    (fun _ _ _ _ => rfl) (fun _ _ _ _ => .inr rfl) fun _ _ _ _ => .inr rfl
  rintro clock s _ rfl
  rfl

/-- An operation that has begun writes nothing but its end, together with its outcome. -/
theorem inStep_noteEnd (operation : StoreOperation) (answer : α → Json)
    (p : Routine ω (Except Failure α)) :
    Routine.InStep Eq Prod.snd (noteEnd operation answer p) (noteEnd operation answer p)
      fun entries result => entries = [] ∧ result = none ∨
        ∃ value, entries = [.ended operation (value.map answer)] ∧
          ∀ other, result = some other → other = value := by
  have hwork : Routine.InStep Eq Prod.snd (p.focus Prod.fst fun world noted => (world, noted.2))
      (p.focus Prod.fst fun world (noted : ω × List StoreEvent) => (world, noted.2))
      LogSpec.silent :=
    .focus p (fun _ _ h => congrArg Prod.fst h)
      (fun part _ _ h => congrArg (fun noted => (part, Prod.snd noted)) h) fun _ _ => rfl
  have hend (outcome : Except Failure α) :=
    (inStep_noteEvent (ω := ω) (.ended operation (outcome.map answer))).bind
      (f := fun _ => .done outcome) (g := fun _ => .done outcome)
      (U := fun _ entries result => entries = [] ∧ ∀ other, result = some other → other = outcome)
      fun _ => .done ⟨rfl, by simp⟩ ⟨rfl, by simp⟩
  refine (hwork.bind hend).mono ?_
  intro entries result hthen
  cases hthen with
  | first hworked => exact .inl ⟨hworked, rfl⟩
  | @second _ _ value _ hworked hrest =>
    obtain rfl : _ = [] := hworked
    cases hrest with
    | first hended =>
      rcases hended with ⟨rfl, -⟩ | rfl
      · exact .inl ⟨rfl, rfl⟩
      · exact .inr ⟨value, rfl, by simp⟩
    | second hended hdone =>
      obtain rfl : _ = [_] := hended.resolve_left fun h => by cases h.2
      obtain ⟨rfl, hvalue⟩ := hdone
      exact .inr ⟨value, rfl, hvalue⟩

/-- A noted operation writes its beginning and, with its outcome, its end. -/
theorem inStep_noteOperation (operation : StoreOperation) (answer : α → Json)
    (p : Routine ω (Except Failure α)) :
    Routine.InStep Eq Prod.snd (noteOperation operation answer p) (noteOperation operation answer p)
      fun entries result => ∃ outcome, OperationLog operation entries outcome ∧
        ∀ value, result = some value → outcome = some (value.map answer) := by
  refine ((inStep_noteEvent (.began operation)).bind fun _ =>
    inStep_noteEnd operation answer p).mono ?_
  intro entries result hthen
  cases hthen with
  | first hbegan =>
    rcases hbegan with ⟨rfl, -⟩ | rfl
    · exact ⟨none, .unbegun, by simp⟩
    · exact ⟨none, .underway, by simp⟩
  | second hbegan hrest =>
    obtain rfl : _ = [_] := hbegan.resolve_left fun h => by cases h.2
    rcases hrest with ⟨rfl, rfl⟩ | ⟨value, rfl, hvalue⟩
    · exact ⟨none, .underway, by simp⟩
    · refine ⟨_, .ended (value.map answer), ?_⟩
      intro other hother
      rw [hvalue other hother]

end noting

/-! ## Operations side by side -/

namespace OperationLog

variable {operation : StoreOperation} {entries : List StoreEvent} {outcome : Option Outcome}

theorem operation_eq (h : OperationLog operation entries outcome) :
    ∀ e ∈ entries, e.operation = operation := by
  cases h with
  | unbegun => simp
  | underway => simp [StoreEvent.operation]
  | ended outcome => simp [StoreEvent.operation]

theorem begun_sublist (h : OperationLog operation entries outcome) :
    (operationsBegun entries).Sublist [operation] := by
  cases h with
  | unbegun => exact List.nil_sublist _
  | underway => exact List.Sublist.refl _
  | ended outcome => exact List.Sublist.refl _

theorem begun_of_ended (h : OperationLog operation entries outcome) (hended : outcome.isSome) :
    operationsBegun entries = [operation] := by
  cases h with
  | unbegun => cases hended
  | underway => cases hended
  | ended outcome => rfl

end OperationLog

/-- A run of several operations side by side whose outcomes are known as far as they ended: the
notes are those of the operations, each begun once at most. If none of them fails, all of them
are made and the records are their outcomes in the order of the operations; if one fails, the
run ends with the failure of one. -/
structure EachDone (operations : List StoreOperation) (log : List StoreEvent)
    (outcomes : Nat → Option Outcome) (result : Except Failure (List Json)) : Prop where
  noted : FanOut.SideBySide operations.length (fun place entries outcome =>
    ∀ operation, operations[place]? = some operation → OperationLog operation entries outcome)
    log outcomes
  only : ∀ e ∈ log, e.operation ∈ operations
  begun : (operationsBegun log).Subperm operations
  succeeded : (∀ place < operations.length, ∀ failure, outcomes place ≠ some (.error failure)) →
    ∃ records, result = .ok records ∧ (operationsBegun log).Perm operations ∧
      records.length = operations.length ∧
      ∀ (place : Nat) record, records[place]? = some record → outcomes place = some (.ok record)
  failed : (∃ place < operations.length, ∃ failure, outcomes place = some (.error failure)) →
    ∃ place < operations.length, ∃ failure, outcomes place = some (.error failure) ∧
      result = .error failure

section side

variable {operations : List StoreOperation} {log : List StoreEvent}
variable {outcomes : Nat → Option Outcome}
variable (hnoted : FanOut.SideBySide operations.length (fun place entries outcome =>
  ∀ operation, operations[place]? = some operation → OperationLog operation entries outcome)
  log outcomes)
include hnoted

theorem operation_mem : ∀ e ∈ log, e.operation ∈ operations := by
  obtain ⟨tagged, rfl, hplaces, hlog⟩ := hnoted
  intro e he
  obtain ⟨⟨place, e⟩, hmem, rfl⟩ := List.mem_map.mp he
  have hplace := hplaces _ hmem
  have hoperation := List.getElem?_eq_getElem hplace
  have heq := (hlog place hplace _ hoperation).operation_eq e (mem_entriesAt.mpr hmem)
  show e.operation ∈ operations
  rw [heq]
  exact List.getElem_mem hplace

/-- The operations that were begun, place by place. -/
theorem exists_operationsBegun_perm : ∃ tagged : List (Nat × StoreEvent),
    (operationsBegun log).Perm ((List.range operations.length).flatMap fun place =>
      operationsBegun (entriesAt place tagged)) ∧
    ∀ place operation, operations[place]? = some operation →
      OperationLog operation (entriesAt place tagged) (outcomes place) := by
  obtain ⟨tagged, rfl, hplaces, hlog⟩ := hnoted
  have hperm := (perm_entriesAt hplaces).filterMap StoreEvent.begun?
  rw [List.filterMap_flatMap] at hperm
  exact ⟨tagged, hperm, fun place operation hoperation =>
    hlog place (List.getElem?_eq_some_iff.mp hoperation).1 operation hoperation⟩

theorem operationsBegun_subperm : (operationsBegun log).Subperm operations := by
  obtain ⟨tagged, hperm, hlog⟩ := exists_operationsBegun_perm hnoted
  have hsublist : ((List.range operations.length).flatMap fun place =>
      operationsBegun (entriesAt place tagged)).Sublist operations :=
    flatMap_range_sublist fun place operation hoperation =>
      (hlog place operation hoperation).begun_sublist
  exact hperm.subperm.trans hsublist.subperm

theorem operationsBegun_perm_of_ended
    (hended : ∀ place < operations.length, (outcomes place).isSome) :
    (operationsBegun log).Perm operations := by
  obtain ⟨tagged, hperm, hlog⟩ := exists_operationsBegun_perm hnoted
  have hall : ((List.range operations.length).flatMap fun place =>
      operationsBegun (entriesAt place tagged)) = operations :=
    flatMap_range_eq fun place operation hoperation =>
      (hlog place operation hoperation).begun_of_ended
        (hended place (List.getElem?_eq_some_iff.mp hoperation).1)
  exact hall ▸ hperm

variable {results : Nat → Option (Except Failure Json)} {result : Except Failure (List Json)}

/-- What a fan-out of operations ends with is made of their outcomes. -/
theorem EachDone.of_results
    (hreported : ∀ place < operations.length, ∀ r, results place = some r →
      outcomes place = some r)
    (hresult : FanOut.AllOrFirst operations.length results result) :
    EachDone operations log outcomes result := by
  refine ⟨hnoted, operation_mem hnoted, operationsBegun_subperm hnoted, ?_, ?_⟩
  · intro hnone
    cases result with
    | error failure =>
      obtain ⟨place, hplace, hfailed⟩ := hresult
      exact absurd (hreported place hplace _ hfailed) (hnone place hplace failure)
    | ok records =>
      obtain ⟨hlength, hrecord⟩ := hresult
      have houtcome : ∀ (place : Nat) record, records[place]? = some record →
          outcomes place = some (.ok record) := by
        intro place record hget
        have hplace : place < operations.length :=
          hlength ▸ (List.getElem?_eq_some_iff.mp hget).1
        exact hreported place hplace _ (hrecord place record hget)
      refine ⟨records, rfl, operationsBegun_perm_of_ended hnoted ?_, hlength, houtcome⟩
      intro place hplace
      rw [houtcome place _ (List.getElem?_eq_getElem (hlength ▸ hplace))]
      rfl
  · rintro ⟨place, hplace, failure, hfailed⟩
    cases result with
    | error failure =>
      obtain ⟨place, hplace, hfailed⟩ := hresult
      exact ⟨place, hplace, failure, hreported place hplace _ hfailed, rfl⟩
    | ok records =>
      obtain ⟨hlength, hrecord⟩ := hresult
      have hget := List.getElem?_eq_getElem (l := records) (hlength ▸ hplace)
      have hok := hreported place hplace _ (hrecord place _ hget)
      rw [hfailed] at hok
      cases hok

end side

/-- What is noted of an operation that may have been cut off right after its end. -/
def OperationSpec (operation : StoreOperation) : LogSpec StoreEvent Outcome :=
  fun entries result => ∃ outcome, OperationLog operation entries outcome ∧
    ∀ value, result = some value → outcome = some value

/-- Operations that are noted side by side have outcomes, also where these came too late. -/
theorem exists_eachDone {operations : List StoreOperation} {log : List StoreEvent}
    {results : Nat → Option Outcome} {result : Except Failure (List Json)}
    (hsides : FanOut.SideBySide operations.length (fun place entries result =>
      ∀ operation, operations[place]? = some operation → OperationSpec operation entries result)
      log results)
    (hresult : FanOut.AllOrFirst operations.length results result) :
    ∃ outcomes, EachDone operations log outcomes result := by
  obtain ⟨tagged, hlog, hplaces, hspec⟩ := hsides
  have houtcome : ∀ place, ∃ outcome, ∀ operation, operations[place]? = some operation →
      OperationLog operation (entriesAt place tagged) outcome ∧
        ∀ value, results place = some value → outcome = some value := by
    intro place
    cases hoperation : operations[place]? with
    | none => exact ⟨none, by simp⟩
    | some operation =>
      have hplace := (List.getElem?_eq_some_iff.mp hoperation).1
      obtain ⟨outcome, houtcome⟩ := hspec place hplace operation hoperation
      exact ⟨outcome, by rintro _ ⟨⟩; exact houtcome⟩
  choose outcomes houtcomes using houtcome
  refine ⟨outcomes, .of_results ⟨tagged, hlog, hplaces, ?_⟩ ?_ hresult⟩
  · exact fun place _ operation hoperation => (houtcomes place operation hoperation).1
  · exact fun place hplace =>
      (houtcomes place _ (List.getElem?_eq_getElem hplace)).2

/-- Retrievals from one collection, all side by side on a noting store, are made as described. -/
theorem run_retrieveEach {ω : Type} (store : Store ω) (collection : String)
    (select : Option String) (ids : List String) (clock : Clock) (world : ω) :
    let finish := (FanOut.allOrFirstFailure (ids.map fun id =>
      store.noting.retrieve collection id select)).run clock (world, [])
    ∃ outcomes, EachDone (ids.map fun id => .retrieve collection id select) finish.state.2 outcomes
      finish.value := by
  intro finish
  let operations : List StoreOperation := ids.map fun id => .retrieve collection id select
  let routines := ids.map fun id => store.noting.retrieve collection id select
  have hlength : routines.length = operations.length := by
    rw [List.length_map, List.length_map]
  have hstep : Routine.InStep Eq Prod.snd (FanOut.allOrFirstFailure routines)
      (FanOut.allOrFirstFailure routines) (FanOut.AllSpec routines.length
        fun place entries result => ∀ operation, operations[place]? = some operation →
          OperationSpec operation entries result) := by
    refine FanOut.inStep_allOrFirstFailure rfl ?_
    intro place first second hfirst hsecond
    obtain rfl := Option.some.inj (hfirst.symm.trans hsecond)
    rw [List.getElem?_map] at hfirst
    obtain ⟨id, hid, rfl⟩ := Option.map_eq_some_iff.mp hfirst
    refine (inStep_noteOperation (.retrieve collection id select) (fun record => record)
      (store.retrieve collection id select)).mono ?_
    rintro entries result ⟨outcome, hlog, hvalue⟩ operation hoperation
    rw [List.getElem?_map, hid] at hoperation
    obtain rfl := Option.some.inj hoperation
    refine ⟨outcome, hlog, fun value hresult => ?_⟩
    rw [hvalue value hresult]
    cases value with
    | error failure => rfl
    | ok record => rfl
  obtain ⟨-, -, -, entries, hlog, results, hsides, hresult⟩ :=
    hstep.run clock (s := (world, [])) rfl
  rw [hlength] at hsides hresult
  rw [show finish.state.2 = entries from hlog]
  exact exists_eachDone hsides (hresult _ rfl)

end ActivityFlow
