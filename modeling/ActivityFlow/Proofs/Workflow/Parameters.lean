import ActivityFlow.Workflow
import ActivityFlow.Proofs.Json.WellFormed

/-!
# Effective parameters

The parameters of a step are determined key by key: a value that is given outright stands,
and the value of an imported variable fills the place where none is given. An import looks
at the parameters that are given, not at those imported before it, so an import that is
made twice or in another order adds nothing.
-/
namespace ActivityFlow.Step

open Fields

/-- A step with some variables has a value for a parameter: it is given outright, or none is
given and it is the value of an imported variable. Null is a value like any other. -/
inductive Supplies (step : Step) (vars : Fields) (key : String) (value : Json) : Prop where
  | given (hvalue : get? step.params key = some value)
  | imported (hgiven : get? step.params key = none) (hkey : key ∈ step.imports)
    (hvalue : get? vars key = some value)

section imports

variable (step : Step) (vars : Fields)

theorem importVar_of_given (params : Fields) {name : String} {value : Json}
    (h : get? step.params name = some value) : step.importVar vars params name = params := by
  have hcontains : contains step.params name = true := by rw [contains, h]; rfl
  rw [importVar, if_pos hcontains]

theorem get?_importVar_of_not_given (params : Fields) {name : String}
    (h : get? step.params name = none) (key : String) :
    get? (step.importVar vars params name) key =
      if name = key then (get? vars key).or (get? params key) else get? params key := by
  have hcontains : contains step.params name ≠ true := by rw [contains, h]; decide
  rw [importVar, if_neg hcontains]
  cases hvars : get? vars name with
  | none =>
    by_cases hkey : name = key
    · subst hkey
      rw [if_pos rfl, hvars, Option.none_or]
    · rw [if_neg hkey]
  | some value =>
    show get? (insert params name value) key = _
    rw [get?_insert]
    by_cases hkey : name = key
    · subst hkey
      rw [if_pos rfl, if_pos rfl, hvars, Option.some_or]
    · rw [if_neg hkey, if_neg hkey]

/-- Importing never changes what is found under a key that is given outright. -/
theorem get?_importAll_of_given {key : String} {value : Json}
    (h : get? step.params key = some value) (names : List String) (params : Fields) :
    get? (names.foldl (step.importVar vars) params) key = get? params key := by
  induction names generalizing params with
  | nil => rfl
  | cons name rest ih =>
    rw [List.foldl_cons, ih]
    by_cases hkey : name = key
    · subst hkey
      rw [importVar_of_given step vars params h]
    cases hname : get? step.params name with
    | some other => rw [importVar_of_given step vars params hname]
    | none => rw [get?_importVar_of_not_given step vars params hname, if_neg hkey]

/-- Importing puts the variables of the names under the keys that are not given outright,
over whatever was there. -/
theorem get?_importAll_of_not_given {key : String} (h : get? step.params key = none)
    (names : List String) (params : Fields) :
    get? (names.foldl (step.importVar vars) params) key =
      if key ∈ names then (get? vars key).or (get? params key) else get? params key := by
  induction names generalizing params with
  | nil => rfl
  | cons name rest ih =>
    rw [List.foldl_cons, ih]
    by_cases hkey : name = key
    · subst hkey
      have hfirst : get? (step.importVar vars params name) name =
          (get? vars name).or (get? params name) := by
        rw [get?_importVar_of_not_given step vars params h, if_pos rfl]
      rw [hfirst, if_pos (List.mem_cons_self ..)]
      -- a name that comes again finds its own value in place
      cases get? vars name with
      | none => simp only [Option.none_or, ite_self]
      | some value => simp only [Option.some_or, ite_self]
    · have hfirst : get? (step.importVar vars params name) key = get? params key := by
        cases hname : get? step.params name with
        | some other => rw [importVar_of_given step vars params hname]
        | none => rw [get?_importVar_of_not_given step vars params hname, if_neg hkey]
      have hmem : key ∈ name :: rest ↔ key ∈ rest := by
        rw [List.mem_cons]
        exact or_iff_right (Ne.symm hkey)
      rw [hfirst]
      simp only [hmem]

/-- What is found among the effective parameters of a step. -/
theorem get?_resolve (key : String) :
    get? (step.resolve vars) key =
      (get? step.params key).or (if key ∈ step.imports then get? vars key else none) := by
  have hfold : step.resolve vars = step.imports.foldl (step.importVar vars) step.params := rfl
  rw [hfold]
  cases hgiven : get? step.params key with
  | some value =>
    rw [get?_importAll_of_given step vars hgiven, hgiven, Option.some_or]
  | none =>
    rw [get?_importAll_of_not_given step vars hgiven, hgiven, Option.or_none, Option.none_or]

theorem get?_resolve_eq_some_iff (key : String) (value : Json) :
    get? (step.resolve vars) key = some value ↔ step.Supplies vars key value := by
  rw [get?_resolve]
  constructor
  · intro hfound
    cases hgiven : get? step.params key with
    | some given =>
      rw [hgiven, Option.some_or] at hfound
      exact .given (hgiven.trans hfound)
    | none =>
      rw [hgiven, Option.none_or] at hfound
      by_cases hkey : key ∈ step.imports
      · rw [if_pos hkey] at hfound
        exact .imported hgiven hkey hfound
      · rw [if_neg hkey] at hfound
        cases hfound
  · rintro (hvalue | ⟨hgiven, hkey, hvalue⟩)
    · rw [hvalue, Option.some_or]
    · rw [hgiven, if_pos hkey, hvalue, Option.none_or]

variable {vars}

theorem ascending_importVar {params : Fields} (h : Ascending params) (name : String) :
    Ascending (step.importVar vars params name) := by
  rw [importVar]
  by_cases hgiven : contains step.params name = true
  · rw [if_pos hgiven]
    exact h
  rw [if_neg hgiven]
  cases get? vars name with
  | none => exact h
  | some value => exact h.insert name value

/-- The effective parameters are an object if those given outright are. -/
theorem ascending_resolve (h : Ascending step.params) : Ascending (step.resolve vars) := by
  have hall : ∀ (names : List String) (params : Fields), Ascending params →
      Ascending (names.foldl (step.importVar vars) params) := by
    intro names
    induction names with
    | nil => exact fun _ hparams => hparams
    | cons name rest ih =>
      exact fun params hparams => ih _ (step.ascending_importVar hparams name)
  exact hall step.imports step.params h

end imports

/-- A step with other variables is supplied as the given one if it has the same parameters
given outright, imports the same names in any order and number, and finds the same variables
under those names of them that are not given outright. -/
structure SuppliedAs (other : Step) (otherVars : Fields) (step : Step) (vars : Fields) :
    Prop where
  params : other.params = step.params
  imports : ∀ name, name ∈ other.imports ↔ name ∈ step.imports
  vars : ∀ name ∈ step.imports, get? step.params name = none →
    get? otherVars name = get? vars name

theorem SuppliedAs.supplies_iff {other step : Step} {otherVars vars : Fields}
    (h : other.SuppliedAs otherVars step vars) (key : String) (value : Json) :
    other.Supplies otherVars key value ↔ step.Supplies vars key value := by
  have hparams : get? other.params key = get? step.params key := by rw [h.params]
  constructor
  · rintro (hvalue | ⟨hgiven, hkey, hvalue⟩)
    · exact .given (hparams.symm.trans hvalue)
    · have hgiven := hparams.symm.trans hgiven
      have hkey := (h.imports key).mp hkey
      exact .imported hgiven hkey ((h.vars key hkey hgiven).symm.trans hvalue)
  · rintro (hvalue | ⟨hgiven, hkey, hvalue⟩)
    · exact .given (hparams.trans hvalue)
    · exact .imported (hparams.trans hgiven) ((h.imports key).mpr hkey)
        ((h.vars key hkey hgiven).trans hvalue)

/-- The effective parameters of a step are the object that has under every key the value with
which the step is supplied and nothing where there is none. So they contain every parameter
that is given outright, and neither the order and number of the imports nor a variable that
is not imported, or given outright as well, makes a difference. -/
theorem resolve_supplied (step : Step) (vars : Fields) (h : Ascending step.params) :
    Ascending (step.resolve vars) ∧
      (∀ key value, get? (step.resolve vars) key = some value ↔ step.Supplies vars key value) ∧
      (∀ key, get? (step.resolve vars) key = none ↔ ∀ value, ¬ step.Supplies vars key value) ∧
      Includes (step.resolve vars) step.params ∧
      ∀ (other : Step) (otherVars : Fields), other.SuppliedAs otherVars step vars →
        other.resolve otherVars = step.resolve vars := by
  refine ⟨step.ascending_resolve h, step.get?_resolve_eq_some_iff vars, ?_, ?_, ?_⟩
  · intro key
    rw [Option.eq_none_iff_forall_ne_some]
    exact forall_congr' fun value => not_congr (step.get?_resolve_eq_some_iff vars key value)
  · rintro ⟨key, value⟩ hmem
    exact (step.get?_resolve_eq_some_iff vars key value).mpr (.given (h.mem_iff.mp hmem))
  · intro other otherVars hsame
    have hother : Ascending other.params := by
      rw [hsame.params]
      exact h
    refine (other.ascending_resolve hother).ext (step.ascending_resolve h) fun key => ?_
    ext value
    rw [other.get?_resolve_eq_some_iff, step.get?_resolve_eq_some_iff]
    exact hsame.supplies_iff key value

/-- Of four imports one is also given outright, one is null and one does not exist. Repeating
and reordering them changes nothing, nor does another value for the one that is given. -/
theorem resolve_supplied_again :
    let step : Step :=
      ⟨"ocr", [("language", .text "fr"), ("pages", .null)],
        ["object", "language", "page", "absent"], none⟩
    let vars : Fields := [("language", .text "en"), ("object", .null), ("page", .int 3)]
    let other : Step := { step with
      imports := ["absent", "page", "language", "page", "object", "language"] }
    let otherVars : Fields :=
      [("language", .text "de"), ("object", .null), ("page", .int 3), ("user", .text "x")]
    Ascending step.params ∧ other.SuppliedAs otherVars step vars ∧
      step.resolve vars =
        [("language", .text "fr"), ("object", .null), ("page", .int 3), ("pages", .null)] ∧
      other.resolve otherVars = step.resolve vars := by
  intro step vars other otherVars
  have hasc : Ascending step.params := by
    show (["language", "pages"] : List String).Pairwise (· < ·)
    decide
  have hsame : other.SuppliedAs otherVars step vars := by
    refine ⟨rfl, fun name => ?_, by decide⟩
    simp only [other, step, List.mem_cons, List.not_mem_nil, or_false]
    tauto
  exact ⟨hasc, hsame, by decide, (resolve_supplied step vars hasc).2.2.2.2 other otherVars hsame⟩

end ActivityFlow.Step
