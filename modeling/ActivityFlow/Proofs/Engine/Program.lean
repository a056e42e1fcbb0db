import ActivityFlow.Proofs.Engine.Attempts
import ActivityFlow.Proofs.FanOut.Results

/-!
# Programs of invocations

A program invokes activities one after another and side by side, and looks at the histories
that are kept. It is a tree that grows with the answers that it gets, so that what it does next
may depend on all of them. The nodes of a program have sites, which tell invocations apart that
are alike otherwise.

A log says what the invocations of a program did and in which order. Whatever turns they take,
the log of a program is one of its logs as they are read off the tree; in such a log nothing
inside a fan-out comes after anything behind it.
-/
namespace ActivityFlow

/-- The way from a node of a program to one below it. -/
inductive Way where
  /-- To what follows the node. -/
  | next
  /-- Into one of the programs that the node runs side by side. -/
  | branch (index : Nat)
deriving DecidableEq

/-- The site of a node in a program: the ways that lead to it, the last one first. -/
abbrev Site := List Way

/-- A program that invokes activities, and ends with a value or a failure. -/
inductive Program (ω φ α : Type) : Type where
  | done (result : Except φ α)
  | invoke (activity : Activity ω) (call : Call) (options : AttemptOptions)
    (next : Outcome → Program ω φ α)
  /-- Looks at the histories that are kept. -/
  | look (next : List AttemptRecord → Program ω φ α)
  /-- Takes the histories, so that none is kept. -/
  | take (next : List AttemptRecord → Program ω φ α)
  /-- Runs programs side by side until all have succeeded or one has failed. -/
  | all (size : Nat) (branches : Fin size → Program ω φ α)
    (next : Except φ (List α) → Program ω φ α)
  /-- Runs programs side by side until all have ended. -/
  | settle (size : Nat) (branches : Fin size → Program ω φ α)
    (next : FanOut.Report φ α → Program ω φ α)

/-- What programs run on: the routines of their invocations and looks at given sites. -/
structure Platform (ω σ : Type) where
  invoke : Site → Activity ω → Call → AttemptOptions → Routine σ Outcome
  look : Site → Routine σ (List AttemptRecord)
  take : Site → Routine σ (List AttemptRecord)

namespace Program

variable {ω σ φ α : Type}

/-- Runs a program on a platform. -/
def on (platform : Platform ω σ) (site : Site) : Program ω φ α → Routine σ (Except φ α)
  | done result => .done result
  | invoke activity call options next =>
    (platform.invoke site activity call options).bind fun outcome =>
      (next outcome).on platform (.next :: site)
  | look next => (platform.look site).bind fun records =>
      (next records).on platform (.next :: site)
  | take next => (platform.take site).bind fun records =>
      (next records).on platform (.next :: site)
  | all _ branches next =>
    (FanOut.allOrFirstFailure (List.ofFn fun i =>
      (branches i).on platform (.branch i :: site))).bind fun result =>
        (next result).on platform (.next :: site)
  | settle _ branches next =>
    (FanOut.settleAll (List.ofFn fun i =>
      (branches i).on platform (.branch i :: site))).bind fun report =>
        (next report).on platform (.next :: site)

/-- A program is blind if what it does does not depend on the histories that it sees. -/
def Blind : Program ω φ α → Prop
  | done _ => True
  | invoke _ _ _ next => ∀ outcome, (next outcome).Blind
  | look next => (∀ records records', next records = next records') ∧
      ∀ records, (next records).Blind
  | take next => (∀ records records', next records = next records') ∧
      ∀ records, (next records).Blind
  | all _ branches next => (∀ i, (branches i).Blind) ∧ ∀ result, (next result).Blind
  | settle _ branches next => (∀ i, (branches i).Blind) ∧ ∀ report, (next report).Blind

end Program

/-! ## Logs -/

/-- What happens at a site. -/
inductive Event where
  /-- An attempt of an invocation begins. -/
  | began (site : Site) (call : Call) (attempt : Nat)
  /-- An invocation ends, and its history is complete. -/
  | finished (site : Site) (call : Call) (record : AttemptRecord) (outcome : Outcome)
  | looked (site : Site)
  | took (site : Site)
deriving DecidableEq

namespace Event

/-- Where something happens. -/
def site : Event → Site
  | began site _ _ => site
  | finished site _ _ _ => site
  | looked site => site
  | took site => site

def IsEnd : Event → Prop
  | finished _ _ _ _ => True
  | _ => False

/-- Something happens in one of the programs that the node at a site runs side by side. -/
def Inside (scope : Site) (e : Event) : Prop := ∃ i, (.branch i :: scope) <:+ e.site

/-- Something happens in what follows the node at a site. -/
def Behind (scope : Site) (e : Event) : Prop := (.next :: scope) <:+ e.site

/-- After the first event the second one may still happen: what is inside a node comes before
what is behind it, and nothing happens at an invocation that has ended. -/
def Permits (e later : Event) : Prop :=
  (∀ scope, e.Behind scope → ¬ later.Inside scope ∧ later.site ≠ scope) ∧
    (e.IsEnd → later.site ≠ e.site)

end Event

/-- The history of an invocation whose last attempt comes after `made` retried ones. -/
def AttemptRecord.ended (activity : String) (made : Nat) (outcome : Outcome) : AttemptRecord :=
  ⟨activity, made + 1, (retried activity made).stages ++ [.attempting, .closing outcome]⟩

/-- The beginnings of attempts that follow `made` earlier ones. -/
def beginnings (site : Site) (call : Call) (made count : Nat) : List Event :=
  (List.range' (made + 1) count).map (Event.began site call)

/-- The log of an invocation of which `made` attempts were retried before. -/
inductive InvocationLog (site : Site) (call : Call) (made : Nat) : LogSpec Event Outcome where
  | underway (count : Nat) : InvocationLog site call made (beginnings site call made count) none
  | finished (count : Nat) (outcome : Outcome) {result : Option Outcome}
    (h : ∀ o, result = some o → o = outcome) :
    InvocationLog site call made (beginnings site call made (count + 1) ++
      [.finished site call (.ended call.activity (made + count) outcome) outcome]) result
  /-- After as many attempts as can be counted an invocation is given up without a history. -/
  | uncounted :
    InvocationLog site call made (beginnings site call made (words32 - 1 - made))
      (some (.error Engine.uncounted))

/-- The log of one event. -/
def EventLog {α : Type} (event : Event) : LogSpec Event α := fun entries result =>
  entries = [] ∧ result = none ∨ entries = [event]

namespace Program

variable {ω φ α : Type}

/-- The logs of a program that runs at a site. -/
def Logs (site : Site) : Program ω φ α → LogSpec Event (Except φ α)
  | done result => fun entries result' => entries = [] ∧ ∀ r, result' = some r → r = result
  | invoke _ call _ next =>
    (InvocationLog site call 0).Then fun outcome => (next outcome).Logs (.next :: site)
  | look next => (EventLog (.looked site)).Then fun records => (next records).Logs (.next :: site)
  | take next => (EventLog (.took site)).Then fun records => (next records).Logs (.next :: site)
  | all size branches next =>
    (FanOut.AllSpec size fun i entries result =>
      ∀ h : i < size, (branches ⟨i, h⟩).Logs (.branch i :: site) entries result).Then fun result =>
        (next result).Logs (.next :: site)
  | settle size branches next =>
    (FanOut.SettledSpec size fun i entries result =>
      ∀ h : i < size, (branches ⟨i, h⟩).Logs (.branch i :: site) entries result).Then fun report =>
        (next report).Logs (.next :: site)

end Program

/-! ## The order of a log -/

namespace Event

variable {scope site : Site} {e later : Event}

theorem way_eq_of_suffix {w w' : Way} (h : (w :: scope) <:+ site) (h' : (w' :: scope) <:+ site) :
    w = w' := by
  have hsuffix := List.suffix_of_suffix_length_le h h' (by simp)
  have heq := hsuffix.eq_of_length (by simp)
  exact (List.cons.inj heq).1

theorem not_cons_suffix_self (w : Way) (site : Site) : ¬ (w :: site) <:+ site := by
  intro h
  have hlength := h.length_le
  rw [List.length_cons] at hlength
  omega

/-- What happens at a node or below it may follow what happens at the node. -/
theorem permits_of_below (h : e.site <:+ later.site) (hend : e.IsEnd → later.site ≠ e.site) :
    e.Permits later := by
  refine ⟨?_, hend⟩
  intro scope hbehind
  have hlater : (.next :: scope) <:+ later.site := hbehind.trans h
  constructor
  · rintro ⟨i, hinside⟩
    cases way_eq_of_suffix hlater hinside
  · rintro rfl
    exact not_cons_suffix_self _ _ hlater

/-- What happens inside a node may be followed by what happens elsewhere inside the node or
behind it. -/
theorem permits_of_apart {i : Nat} {w : Way} (hne : .branch i ≠ w)
    (he : (.branch i :: scope) <:+ e.site) (hlater : (w :: scope) <:+ later.site) :
    e.Permits later := by
  have hapart : ¬ (.branch i :: scope) <:+ later.site := fun h =>
    hne (way_eq_of_suffix h hlater)
  constructor
  · intro other hbehind
    rcases Nat.lt_trichotomy other.length scope.length with hlt | heq | hgt
    · have hscope : scope <:+ e.site := (List.suffix_cons _ _).trans he
      have hother : (.next :: other) <:+ later.site :=
        (List.suffix_of_suffix_length_le hbehind hscope
          (by simp only [List.length_cons]; omega)).trans ((List.suffix_cons _ _).trans hlater)
      constructor
      · rintro ⟨j, hinside⟩
        cases way_eq_of_suffix hother hinside
      · rintro rfl
        exact not_cons_suffix_self _ _ hother
    · have hsuffix := List.suffix_of_suffix_length_le hbehind he (by simp [heq])
      have hways := hsuffix.eq_of_length (by simp [heq])
      simp at hways
    · have hother : other <:+ e.site := (List.suffix_cons _ _).trans hbehind
      have hbelow : (.branch i :: scope) <:+ other :=
        List.suffix_of_suffix_length_le he hother (by simp only [List.length_cons]; omega)
      constructor
      · rintro ⟨j, hinside⟩
        exact hapart (hbelow.trans ((List.suffix_cons _ _).trans hinside))
      · rintro rfl
        exact hapart hbelow
  · intro _ hsame
    rw [hsame] at hapart
    exact hapart he

end Event

/-- What a log says of one branch of the node at a site. -/
def branchLog (site : Site) (index : Nat) (log : List Event) : List Event :=
  log.filter fun e => (.branch index :: site) <:+ e.site

/-- Where branches of a node run side by side, the log says of each branch what its
specification asks for, and of nothing else. -/
theorem branchLog_spec {α : Type} {site : Site} {n : Nat} {S : Nat → LogSpec Event α}
    {log : List Event} {results : Nat → Option α} (h : FanOut.SideBySide n S log results)
    (hS : ∀ i < n, ∀ entries result, S i entries result →
      ∀ e ∈ entries, (.branch i :: site) <:+ e.site) :
    (∀ e ∈ log, ∃ i < n, (.branch i :: site) <:+ e.site) ∧
      ∀ i < n, S i (branchLog site i log) (results i) := by
  obtain ⟨tagged, rfl, hplaces, hspec⟩ := h
  have hbranch : ∀ e ∈ tagged, (.branch e.1 :: site) <:+ e.2.site := by
    rintro ⟨i, e⟩ he
    have hi := hplaces _ he
    exact hS i hi _ _ (hspec i hi) e (mem_entriesAt.mpr he)
  constructor
  · intro e he
    obtain ⟨⟨i, e⟩, hmem, rfl⟩ := List.mem_map.mp he
    exact ⟨i, hplaces _ hmem, hbranch _ hmem⟩
  · intro i hi
    have hlog : branchLog site i (tagged.map Prod.snd) = entriesAt i tagged := by
      rw [branchLog, entriesAt, ← List.filterMap_eq_filter, List.filterMap_map]
      refine List.filterMap_congr ?_
      intro e he
      by_cases hplace : e.1 = i
      · subst hplace
        simp [hbranch e he]
      · have hother : ¬ (.branch i :: site) <:+ e.2.site := fun h => by
          simpa using hplace (by simpa using Event.way_eq_of_suffix (hbranch e he) h)
        simp [hplace, hother]
    rw [hlog]
    exact hspec i hi

/-- Whole runs of a fan-out over the items of a list, one of which is logged: they take the same
time and end with the same value, which is made of what the routines of the items end with. The
log says of the branch of each item what its specification asks for, and of nothing else. -/
theorem FanOut.run_each {σ τ ι φ α : Type} {R : σ → τ → Prop} {log : τ → List Event}
    (items : List ι) {p : Nat → ι → Routine σ (Except φ α)}
    {q : Nat → ι → Routine τ (Except φ α)} {S : Nat → ι → LogSpec Event (Except φ α)}
    (h : ∀ index item, Routine.InStep R log (p index item) (q index item) (S index item))
    (hbelow : ∀ index item entries result, S index item entries result →
      ∀ e ∈ entries, [.branch index] <:+ e.site)
    (clock : Clock) {s : σ} {t : τ} (hR : R s t) (hempty : log t = []) :
    let finish := (allOrFirstFailure (items.mapIdx p)).run clock s
    let noted := (allOrFirstFailure (items.mapIdx q)).run clock t
    finish.value = noted.value ∧ finish.clock = noted.clock ∧ R finish.state noted.state ∧
      ∃ results : Nat → Option (Except φ α),
        (∀ e ∈ log noted.state, ∃ index < items.length, [.branch index] <:+ e.site) ∧
        (∀ index item, items[index]? = some item →
          S index item (branchLog [] index (log noted.state)) (results index)) ∧
        AllOrFirst items.length results finish.value := by
  intro finish noted
  obtain ⟨hvalue, hclock, hstate, entries, hlog, results, hsides, hresult⟩ :=
    (inStep_each items h).run clock hR
  rw [hempty, List.nil_append] at hlog
  obtain ⟨hevents, hspec⟩ := @branchLog_spec _ [] _ _ _ _ hsides fun index hindex entries result
    hS => hbelow index _ entries result (hS _ (List.getElem?_eq_getElem hindex))
  refine ⟨hvalue, hclock, hstate, results, ?_, ?_, hresult _ (by rw [← hvalue])⟩
  · rwa [hlog]
  · intro index item hitem
    rw [hlog]
    exact hspec index (List.getElem?_eq_some_iff.mp hitem).1 item hitem

/-- Everything happens at a site or below it, and in order. -/
structure Orderly (site : Site) (entries : List Event) : Prop where
  below : ∀ e ∈ entries, site <:+ e.site
  order : entries.Pairwise Event.Permits

namespace Orderly

variable {site : Site} {first later : List Event}

/-- What happens at a node, and then behind it. -/
theorem append (hsite : ∀ e ∈ first, e.site = site) (horder : first.Pairwise Event.Permits)
    (h : Orderly (.next :: site) later) : Orderly site (first ++ later) := by
  have hbelow : ∀ e ∈ later, site <:+ e.site := fun e he =>
    (List.suffix_cons _ _).trans (h.below e he)
  constructor
  · intro e he
    rcases List.mem_append.mp he with he | he
    · exact hsite e he ▸ List.suffix_rfl
    · exact hbelow e he
  · refine List.pairwise_append.mpr ⟨horder, h.order, ?_⟩
    intro a ha b hb
    refine Event.permits_of_below (by rw [hsite a ha]; exact hbelow b hb) ?_
    intro _ hsame
    have hb' := h.below b hb
    rw [hsame, hsite a ha] at hb'
    exact Event.not_cons_suffix_self _ _ hb'

/-- What happens inside a node, and then behind it. -/
theorem append_of_inside (hinside : ∀ e ∈ first, e.Inside site)
    (horder : first.Pairwise Event.Permits) (h : Orderly (.next :: site) later) :
    Orderly site (first ++ later) := by
  constructor
  · intro e he
    rcases List.mem_append.mp he with he | he
    · obtain ⟨i, hi⟩ := hinside e he
      exact (List.suffix_cons _ _).trans hi
    · exact (List.suffix_cons _ _).trans (h.below e he)
  · refine List.pairwise_append.mpr ⟨horder, h.order, ?_⟩
    intro a ha b hb
    obtain ⟨i, hi⟩ := hinside a ha
    exact Event.permits_of_apart (by simp) hi (h.below b hb)

/-- What happens at a node or inside it, and then behind it. -/
theorem of_then {α β : Type} {S : LogSpec Event α} {T : α → LogSpec Event β}
    {entries : List Event} {result : Option β}
    (hfirst : ∀ first value, S first value → ∀ later, Orderly (.next :: site) later →
      Orderly site (first ++ later))
    (hrest : ∀ value later result, T value later result → Orderly (.next :: site) later)
    (h : S.Then T entries result) : Orderly site entries := by
  cases h with
  | first h =>
    rw [← List.append_nil entries]
    exact hfirst _ _ h [] ⟨by simp, List.Pairwise.nil⟩
  | second h hlater => exact hfirst _ _ h _ (hrest _ _ _ hlater)

/-- What happens at a node itself, and then behind it. -/
theorem of_then_at {α β : Type} {S : LogSpec Event α} {T : α → LogSpec Event β}
    {entries : List Event} {result : Option β}
    (hat : ∀ {first value}, S first value →
      (∀ e ∈ first, e.site = site) ∧ first.Pairwise Event.Permits)
    (hrest : ∀ value later result, T value later result → Orderly (.next :: site) later)
    (h : S.Then T entries result) : Orderly site entries := by
  refine of_then ?_ hrest h
  intro first value hfirst later hlater
  obtain ⟨hsite, horder⟩ := hat hfirst
  exact append hsite horder hlater

/-- What happens in several branches of a node, side by side. -/
theorem of_sideBySide {α : Type} {n : Nat} {S : Nat → LogSpec Event α} {entries : List Event}
    {results : Nat → Option α} (h : FanOut.SideBySide n S entries results)
    (hS : ∀ i < n, ∀ entries result, S i entries result → Orderly (.branch i :: site) entries) :
    (∀ e ∈ entries, e.Inside site) ∧ entries.Pairwise Event.Permits := by
  obtain ⟨hevents, hspec⟩ := branchLog_spec h fun i hi entries result hs =>
    (hS i hi entries result hs).below
  refine ⟨?_, List.pairwise_iff_forall_sublist.mpr ?_⟩
  · intro e he
    obtain ⟨i, -, hi⟩ := hevents e he
    exact ⟨i, hi⟩
  · intro a b hsub
    obtain ⟨i, hi, ha⟩ := hevents a (hsub.subset (by simp))
    obtain ⟨j, -, hb⟩ := hevents b (hsub.subset (by simp))
    by_cases hij : i = j
    · subst hij
      have hpair : [a, b].Sublist (branchLog site i entries) := by
        simpa [branchLog, ha, hb] using hsub.filter fun e => (.branch i :: site) <:+ e.site
      exact List.pairwise_iff_forall_sublist.mp (hS i hi _ _ (hspec i hi)).order hpair
    · exact Event.permits_of_apart (by simpa using hij) ha hb

end Orderly

/-- An invocation's events happen at its site, and nothing follows its end. -/
theorem InvocationLog.orderly {site : Site} {call : Call} {made : Nat} {entries : List Event}
    {result : Option Outcome} (h : InvocationLog site call made entries result) :
    (∀ e ∈ entries, e.site = site) ∧ entries.Pairwise Event.Permits := by
  have hbegun : ∀ count, (∀ e ∈ beginnings site call made count, e.site = site ∧ ¬ e.IsEnd) := by
    intro count e he
    obtain ⟨attempt, -, rfl⟩ := List.mem_map.mp he
    exact ⟨rfl, id⟩
  have hpermits : ∀ count, ∀ e ∈ beginnings site call made count, ∀ later : Event,
      later.site = site → e.Permits later := by
    intro count e he later hlater
    obtain ⟨hsite, hend⟩ := hbegun count e he
    exact Event.permits_of_below (hsite.trans hlater.symm ▸ List.suffix_rfl)
      fun h => absurd h hend
  have hbeginnings : ∀ count, (beginnings site call made count).Pairwise Event.Permits := by
    intro count
    refine List.pairwise_of_forall_mem_list ?_
    intro a ha b hb
    exact hpermits count a ha b (hbegun count b hb).1
  cases h with
  | underway count => exact ⟨fun e he => (hbegun count e he).1, hbeginnings count⟩
  | finished count outcome hresult =>
    constructor
    · intro e he
      rcases List.mem_append.mp he with he | he
      · exact (hbegun _ e he).1
      · obtain rfl := List.mem_singleton.mp he
        rfl
    · refine List.pairwise_append.mpr ⟨hbeginnings _, List.pairwise_singleton _ _, ?_⟩
      intro a ha b hb
      obtain rfl := List.mem_singleton.mp hb
      exact hpermits _ a ha _ rfl
  | uncounted => exact ⟨fun e he => (hbegun _ e he).1, hbeginnings _⟩

theorem EventLog.orderly {α : Type} {event : Event} {entries : List Event} {result : Option α}
    (h : EventLog event entries result) :
    (∀ e ∈ entries, e.site = event.site) ∧ entries.Pairwise Event.Permits := by
  rcases h with ⟨rfl, -⟩ | rfl
  · simp
  · simp

theorem Program.Logs.orderly {ω φ α : Type} {p : Program ω φ α} {site : Site}
    {entries : List Event} {result : Option (Except φ α)} (h : p.Logs site entries result) :
    Orderly site entries := by
  induction p generalizing site entries result with
  | done value =>
    obtain ⟨rfl, -⟩ := h
    exact ⟨by simp, List.Pairwise.nil⟩
  | invoke activity call options next ih =>
    exact .of_then_at InvocationLog.orderly (fun outcome later result => ih outcome) h
  | look next ih =>
    exact .of_then_at EventLog.orderly (fun records later result => ih records) h
  | take next ih =>
    exact .of_then_at EventLog.orderly (fun records later result => ih records) h
  | all size branches next ihb ih =>
    refine .of_then ?_ (fun result later result' => ih result) h
    rintro first value ⟨results, hsides, -⟩ later hlater
    obtain ⟨hinside, horder⟩ := Orderly.of_sideBySide hsides fun i hi entries result hlogs =>
      ihb ⟨i, hi⟩ (hlogs hi)
    exact .append_of_inside hinside horder hlater
  | settle size branches next ihb ih =>
    refine .of_then ?_ (fun report later result' => ih report) h
    rintro first value ⟨results, hsides, -⟩ later hlater
    obtain ⟨hinside, horder⟩ := Orderly.of_sideBySide hsides fun i hi entries result hlogs =>
      ihb ⟨i, hi⟩ (hlogs hi)
    exact .append_of_inside hinside horder hlater

end ActivityFlow
