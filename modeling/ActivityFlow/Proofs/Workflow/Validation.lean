import ActivityFlow.Proofs.Workflow.Rehearsal

/-!
# Checking bundles

A bundle is checked without its activities. Names stand for them, and every workflow has to find
the activities of its steps among the names. Nothing else can be wrong with it: neither repeated
names nor repeated steps keep the names from being bound. So a bundle that stands for given names
stands wherever these names are bound.
-/
namespace ActivityFlow

namespace Bundle

variable {names : List String}

/-! ## One workflow -/

/-- Checking a workflow against names binds just these names, or those of its own steps if no
names are given, and looks for the steps among them. -/
theorem exists_checkOne_eq (names : List String) (key : String) (w : Workflow) :
    ∃ bindings : Bindings Unit,
      (∀ name, bindings.contains name = true ↔
        name ∈ if names.isEmpty then w.activities else names) ∧
      checkOne names key w =
        ((w.check bindings).mapError (.invalidWorkflow key)).map fun _ => w.summary key := by
  obtain ⟨bindings, hbindings, hnames, -⟩ := w.exists_echoBindings
    (if names.isEmpty then w.activities else names) Groups.sound_builtIn
  refine ⟨bindings, hnames, ?_⟩
  rw [checkOne, hbindings]
  cases hcheck : w.check bindings <;>
    simp [Except.mapError, Except.map, bind, Except.bind, pure, Except.pure, hcheck]

theorem checkOne_of_listed {w : Workflow}
    (h : names = [] ∨ ∀ step ∈ w.steps, step.activity ∈ names) (key : String) :
    checkOne names key w = .ok (w.summary key) := by
  obtain ⟨bindings, hnames, heq⟩ := exists_checkOne_eq names key w
  have hbound : ∀ step ∈ w.steps, ¬ Workflow.Unbound bindings step := by
    intro step hstep
    have hmem : step.activity ∈ if names.isEmpty then w.activities else names := by
      rcases h with rfl | h
      · exact List.mem_map_of_mem hstep
      · rw [if_neg (by simpa using List.ne_nil_of_mem (h step hstep))]
        exact h step hstep
    exact Workflow.not_unbound_iff.mpr ((hnames _).mpr hmem)
  rw [heq, Workflow.check_of_bound hbound]
  rfl

theorem checkOne_of_unlisted (hnames : names ≠ []) {w : Workflow} {index : Nat} {step : Step}
    (h : FirstIn w.steps (fun step => step.activity ∉ names) index step) (key : String) :
    checkOne names key w =
      .error (.invalidWorkflow key (.unresolvedStep w.name index step.activity)) := by
  obtain ⟨bindings, hbound, heq⟩ := exists_checkOne_eq names key w
  rw [if_neg (by simpa using hnames)] at hbound
  have hunbound : Workflow.Unbound bindings = fun step => step.activity ∉ names := by
    funext step
    rw [Workflow.Unbound, ← hbound, Bool.not_eq_true]
  rw [heq, Workflow.check_of_unbound (hunbound ▸ h)]
  rfl

/-! ## All workflows -/

/-- Every step of every workflow names one of the given activities. -/
def Listed (bundle : Bundle) (names : List String) : Prop :=
  ∀ e ∈ bundle, ∀ step ∈ e.2.steps, step.activity ∈ names

/-- The first workflow of a bundle that has a step at none of the given activities, and the first
such step of it. -/
structure FirstUnlisted (bundle : Bundle) (names : List String) (key : String) (w : Workflow)
    (index : Nat) (step : Step) : Prop where
  workflow : ∃ place, FirstIn bundle (fun e => ∃ step ∈ e.2.steps, step.activity ∉ names) place
    (key, w)
  step : FirstIn w.steps (fun step => step.activity ∉ names) index step

variable {bundle : Bundle}

theorem exists_firstUnlisted (h : ¬ bundle.Listed names) :
    ∃ key w index step, FirstUnlisted bundle names key w index step := by
  simp only [Listed, not_forall] at h
  obtain ⟨e, he, step, hstep, hnot⟩ := h
  obtain ⟨place, ⟨key, w⟩, hfirst⟩ := exists_firstIn
    (P := fun e : String × Workflow => ∃ step ∈ e.2.steps, step.activity ∉ names)
    ⟨e, he, step, hstep, hnot⟩
  obtain ⟨index, step, hstep⟩ := exists_firstIn hfirst.holds
  exact ⟨key, w, index, step, ⟨place, hfirst⟩, hstep⟩

theorem check_of_listed (h : names = [] ∨ bundle.Listed names) :
    bundle.check names = .ok (bundle.map fun e => e.2.summary e.1) :=
  mapM_of_all fun e he => checkOne_of_listed (h.imp_right fun hall => hall e he) e.1

theorem check_of_unlisted (hnames : names ≠ []) {key : String} {w : Workflow} {index : Nat}
    {step : Step} (h : FirstUnlisted bundle names key w index step) :
    bundle.check names =
      .error (.invalidWorkflow key (.unresolvedStep w.name index step.activity)) := by
  obtain ⟨⟨place, hfirst⟩, hstep⟩ := h
  refine mapM_of_firstIn hfirst (fun e hlisted => ?_) (checkOne_of_unlisted hnames hstep key)
  simp only [not_exists, not_and, not_not] at hlisted
  exact ⟨_, checkOne_of_listed (.inr hlisted) e.1⟩

theorem check_eq_ok_iff : (∃ lines, bundle.check names = .ok lines) ↔
    names = [] ∨ bundle.Listed names := by
  constructor
  · rintro ⟨lines, hcheck⟩
    by_contra hnot
    obtain ⟨hnames, hlisted⟩ := not_or.mp hnot
    obtain ⟨key, w, index, step, hfirst⟩ := exists_firstUnlisted hlisted
    rw [check_of_unlisted hnames hfirst] at hcheck
    cases hcheck
  · exact fun h => ⟨_, check_of_listed h⟩

theorem check_eq_error_iff {e : BundleError} : bundle.check names = .error e ↔
    names ≠ [] ∧ ∃ key w index step, FirstUnlisted bundle names key w index step ∧
      e = .invalidWorkflow key (.unresolvedStep w.name index step.activity) := by
  constructor
  · intro hcheck
    have hnot : ¬ (names = [] ∨ bundle.Listed names) := by
      intro h
      rw [check_of_listed h] at hcheck
      cases hcheck
    obtain ⟨hnames, hlisted⟩ := not_or.mp hnot
    obtain ⟨key, w, index, step, hfirst⟩ := exists_firstUnlisted hlisted
    rw [check_of_unlisted hnames hfirst] at hcheck
    exact ⟨hnames, key, w, index, step, hfirst, (Except.error.inj hcheck).symm⟩
  · rintro ⟨hnames, key, w, index, step, hfirst, rfl⟩
    exact check_of_unlisted hnames hfirst

/-- It does not matter how often and in which order names are given. -/
theorem check_congr {other : List String} (h : ∀ name, name ∈ other ↔ name ∈ names) :
    bundle.check other = bundle.check names := by
  have hmem : (fun step : Step => step.activity ∉ other) = fun step => step.activity ∉ names :=
    funext fun step => propext (not_congr (h step.activity))
  have hempty : other = [] ↔ names = [] := by
    simp only [List.eq_nil_iff_forall_not_mem, h]
  have hlisted : bundle.Listed other ↔ bundle.Listed names := by
    simp only [Listed, h]
  by_cases hok : names = [] ∨ bundle.Listed names
  · rw [check_of_listed hok, check_of_listed (hempty.or hlisted |>.mpr hok)]
  · obtain ⟨hnames, hnot⟩ := not_or.mp hok
    obtain ⟨key, w, index, step, ⟨place, hfirst⟩, hstep⟩ := exists_firstUnlisted hnot
    have hother : FirstUnlisted bundle other key w index step := by
      refine ⟨⟨place, ?_⟩, hmem ▸ hstep⟩
      simpa only [h] using hfirst
    rw [check_of_unlisted hnames ⟨⟨place, hfirst⟩, hstep⟩,
      check_of_unlisted (mt hempty.mp hnames) hother]

/-- A bundle stands for given names just if every step of every workflow is at one of them, or if
no names are given. It then has one line for each workflow in order, with its key, the numbers of
its steps, of those with an output, and of its initial variables. Otherwise the error is about the
first workflow with a step that is at none of the names, and tells the first such step. How often
and in which order names are given makes no difference. A bundle that stands for some names stands
under all bindings that have these names, whatever else they have. -/
theorem check_against_names (bundle : Bundle) (names : List String) :
    ((∃ lines, bundle.check names = .ok lines) ↔
      names = [] ∨ ∀ e ∈ bundle, ∀ step ∈ e.2.steps, step.activity ∈ names) ∧
    (∀ lines, bundle.check names = .ok lines → lines = bundle.map fun e =>
      e.1 ++ ": " ++ toString e.2.steps.length ++ " activities, " ++
        toString (e.2.steps.countP fun step => step.output.isSome) ++ " outputs, " ++
        toString e.2.vars.length ++ " vars") ∧
    (∀ failure, bundle.check names = .error failure ↔ names ≠ [] ∧ ∃ place key w index step,
      FirstIn bundle (fun e => ∃ step ∈ e.2.steps, step.activity ∉ names) place (key, w) ∧
      FirstIn w.steps (fun step => step.activity ∉ names) index step ∧
      failure = .invalidWorkflow key (.unresolvedStep w.name index step.activity)) ∧
    (∀ other, (∀ name, name ∈ other ↔ name ∈ names) → bundle.check other = bundle.check names) ∧
    (names ≠ [] → ∀ lines, bundle.check names = .ok lines →
      ∀ (ω : Type) (bindings : Bindings ω), (∀ name ∈ names, bindings.contains name = true) →
        ∀ e ∈ bundle, e.2.check bindings = .ok ()) := by
  refine ⟨check_eq_ok_iff, ?_, fun failure => ?_, fun other h => check_congr h, ?_⟩
  · intro lines hlines
    rw [check_of_listed (check_eq_ok_iff.mp ⟨lines, hlines⟩)] at hlines
    rw [← Except.ok.inj hlines]
    simp only [Workflow.summary, Workflow.outputCount, List.countP_eq_length_filter]
  · rw [check_eq_error_iff]
    constructor
    · rintro ⟨hnames, key, w, index, step, ⟨⟨place, hfirst⟩, hstep⟩, hfailure⟩
      exact ⟨hnames, place, key, w, index, step, hfirst, hstep, hfailure⟩
    · rintro ⟨hnames, place, key, w, index, step, hfirst, hstep, hfailure⟩
      exact ⟨hnames, key, w, index, step, ⟨⟨place, hfirst⟩, hstep⟩, hfailure⟩
  · intro hnames lines hlines ω bindings hbound e he
    have hlisted := (check_eq_ok_iff.mp ⟨lines, hlines⟩).resolve_left hnames
    exact Workflow.check_of_bound fun step hstep =>
      Workflow.not_unbound_iff.mpr (hbound _ (hlisted e he step hstep))

/-- Three workflows, the first of them without steps. A step of the second is at an activity that
is not listed, and so is the first step of the third. With the missing name, and with other names
repeated, the bundle stands, and each workflow stands under bindings with more names. -/
theorem check_against_names_three :
    let extract : Step := ⟨"extract_text", [], ["title"], some "text"⟩
    let translate : Step := ⟨"translate", [], ["text"], none⟩
    let bundle : Bundle := [("empty", ⟨"empty", [], []⟩),
      ("ingest", ⟨"ingest_v2", [extract, extract, translate], [("title", .text "draft")]⟩),
      ("publish", ⟨"publish", [translate], []⟩)]
    let names : List String := ["publish", "extract_text", "publish"]
    let known : List String := ["translate", "extract_text", "translate"]
    let lines : List String := ["empty: 0 activities, 0 outputs, 0 vars",
      "ingest: 3 activities, 2 outputs, 1 vars", "publish: 1 activities, 0 outputs, 0 vars"]
    let bindings : Bindings Unit := ⟨"other", [⟨"extract_text", .echo, .standard⟩,
      ⟨"archive", .echo, .standard⟩, ⟨"translate", .echo, .standard⟩]⟩
    bundle.check names =
        .error (.invalidWorkflow "ingest" (.unresolvedStep "ingest_v2" 2 "translate")) ∧
      bundle.check ["extract_text", "publish"] = bundle.check names ∧
      bundle.check known = .ok lines ∧ (∀ e ∈ bundle, e.2.check bindings = .ok ()) ∧
      ∃ own, bundle.check [] = .ok own := by
  intro extract translate bundle names known lines bindings
  obtain ⟨-, -, hfails, hsame, -⟩ := check_against_names bundle names
  obtain ⟨hstands, hlines, -, -, haccepted⟩ := check_against_names bundle known
  have hlisted : ∀ e ∈ bundle, ∀ step ∈ e.2.steps, step.activity ∈ known := by decide
  obtain ⟨found, hfound⟩ := hstands.mpr (.inr hlisted)
  refine ⟨(hfails _).mpr ⟨by decide, 1, "ingest", _, 2, translate, ⟨rfl, ?_, ?_⟩, ⟨rfl, ?_, ?_⟩,
    rfl⟩, hsame _ ?_, ?_, ?_, (check_against_names bundle []).1.mpr (.inl rfl)⟩
  · exact ⟨translate, by decide, by decide⟩
  · intro place hlt e he
    obtain rfl : place = 0 := by omega
    obtain rfl := Option.some.inj he
    decide
  · decide
  · intro index hlt step hstep
    have hmem : step ∈ [extract, extract] := by
      refine List.mem_of_getElem? (i := index) ?_
      rw [← hstep, show [extract, extract, translate] = [extract, extract] ++ [translate] from rfl,
        List.getElem?_append_left (by simpa using hlt)]
    simp only [List.mem_cons, List.not_mem_nil, or_false, or_self] at hmem
    subst hmem
    decide
  · intro name
    simp only [names, List.mem_cons, List.not_mem_nil, or_false]
    tauto
  · rw [hfound, hlines found hfound]
    decide +kernel
  · exact haccepted (by decide) found hfound Unit bindings (by decide)

end Bundle

end ActivityFlow
