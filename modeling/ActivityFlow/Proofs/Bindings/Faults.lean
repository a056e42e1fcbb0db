import ActivityFlow.Proofs.Bindings.Assignment

/-!
# Why groups cannot be bound

Binding groups is a walk over checks: the policy of each group, and then its names one by one.
A name passes if it is new on the walk and registered. The walk ends with the error of the first
check that does not pass, and without an error there is a binding for each name.
-/
namespace ActivityFlow.Bindings

/-- What is looked at while groups are bound. -/
inductive Check where
  | policy (retry : RetryPolicy)
  | name (name : String)

/-- The checks of groups in order: the policy of each, also of an empty one, before its names. -/
def checksOf (groups : List (AttemptOptions × List String)) : List Check :=
  groups.flatMap fun g => .policy g.1.retry :: g.2.map .name

variable {ω : Type}

/-- A check does not pass after those before it, and the error says why. -/
inductive Faults (catalog : Catalog ω) (before : List Check) : Check → SetupError → Prop where
  | policy {retry : RetryPolicy} {fault : PolicyFault} (h : retry.validate = .error fault) :
    Faults catalog before (.policy retry) (.invalidPolicy fault)
  | bound {name : String} (h : .name name ∈ before) :
    Faults catalog before (.name name) (.duplicateBinding name)
  | unregistered {name : String} (hnew : .name name ∉ before) (h : name ∉ catalog.names) :
    Faults catalog before (.name name) (.unknownActivity name)

/-- A walk over checks meets an error: that of the first check which does not pass after those
before it. -/
inductive Meets (catalog : Catalog ω) (e : SetupError) : List Check → List Check → Prop where
  | here {before rest : List Check} {check : Check} (h : Faults catalog before check e) :
    Meets catalog e before (check :: rest)
  | later {before rest : List Check} {check : Check}
    (hpass : ∀ e', ¬ Faults catalog before check e')
    (h : Meets catalog e (before ++ [check]) rest) : Meets catalog e before (check :: rest)

/-! ## Walks -/

section walks

variable {catalog : Catalog ω} {before rest : List Check} {check : Check} {e e' : SetupError}

theorem Faults.unique (h : Faults catalog before check e) (h' : Faults catalog before check e') :
    e' = e := by
  cases h with
  | policy h =>
    cases h' with
    | policy h' => rw [Except.error.inj (h.symm.trans h')]
  | bound h =>
    cases h' with
    | bound _ => rfl
    | unregistered hnew _ => exact absurd h hnew
  | unregistered hnew _ =>
    cases h' with
    | bound h' => exact absurd h' hnew
    | unregistered _ _ => rfl

theorem not_meets_nil : ¬ Meets catalog e before [] := by
  rintro ⟨⟩

theorem meets_cons_of_faults (h : Faults catalog before check e') :
    Meets catalog e before (check :: rest) ↔ e' = e := by
  constructor
  · intro hmeets
    cases hmeets with
    | here h' => exact h'.unique h
    | later hpass _ => exact absurd h (hpass e')
  · rintro rfl
    exact .here h

theorem meets_cons_of_pass (h : ∀ e', ¬ Faults catalog before check e') :
    Meets catalog e before (check :: rest) ↔ Meets catalog e (before ++ [check]) rest := by
  constructor
  · intro hmeets
    cases hmeets with
    | here h' => exact absurd h' (h e)
    | later _ hrest => exact hrest
  · exact .later h

theorem pass_policy {retry : RetryPolicy} (h : retry.validate = .ok ()) (e : SetupError) :
    ¬ Faults catalog before (.policy retry) e := by
  intro hfaults
  cases hfaults with
  | policy hfault =>
    rw [h] at hfault
    cases hfault

theorem pass_name {name : String} (hnew : .name name ∉ before) (h : name ∈ catalog.names)
    (e : SetupError) : ¬ Faults catalog before (.name name) e := by
  intro hfaults
  cases hfaults with
  | bound hbound => exact hnew hbound
  | unregistered _ hunregistered => exact hunregistered h

end walks

/-! ## Binding -/

section binding

variable {catalog : Catalog ω} {options : AttemptOptions} {bound out : List (Binding ω)}
variable {before : List Check}

/-- The names that were passed on a walk are those that are bound. -/
def Passed (before : List Check) (bound : List (Binding ω)) : Prop :=
  ∀ name, .name name ∈ before ↔ name ∈ bound.map (·.name)

theorem Passed.policy (h : Passed before bound) (retry : RetryPolicy) :
    Passed (before ++ [.policy retry]) bound := by
  intro name
  rw [List.mem_append, ← h name]
  simp

theorem Passed.name (h : Passed before bound) (name : String) (activity : Activity ω)
    (options : AttemptOptions) :
    Passed (before ++ [.name name]) (bound ++ [⟨name, activity, options⟩]) := by
  intro other
  rw [List.mem_append, h other, List.map_append, List.mem_append]
  simp

theorem meets_of_bindNames_ok {names : List String} (hpassed : Passed before bound)
    (h : bindNames catalog options bound names = .ok out) (rest : List Check) (e : SetupError) :
    Passed (before ++ names.map .name) out ∧
      (Meets catalog e before (names.map .name ++ rest) ↔
        Meets catalog e (before ++ names.map .name) rest) := by
  induction names generalizing bound before with
  | nil =>
    obtain rfl := Except.ok.inj h
    rw [List.map_nil, List.append_nil]
    exact ⟨hpassed, Iff.rfl⟩
  | cons name names ih =>
    rcases bindNames_cons_cases catalog options bound name names with
      ⟨-, heq⟩ | ⟨-, -, heq⟩ | ⟨hnew, activity, hget, heq⟩
    · rw [h] at heq
      cases heq
    · rw [h] at heq
      cases heq
    · obtain ⟨hnext, hmeets⟩ := ih (hpassed.name name activity options) (heq ▸ h)
      have hpass : ∀ e', ¬ Faults catalog before (.name name) e' :=
        pass_name (mt (hpassed name).mp hnew) (Catalog.mem_names_of_get? hget)
      have hbehind : before ++ (name :: names).map .name =
          (before ++ [.name name]) ++ names.map .name := by
        rw [List.map_cons, List.append_assoc, List.singleton_append]
      rw [hbehind]
      refine ⟨hnext, ?_⟩
      rw [List.map_cons, List.cons_append, meets_cons_of_pass hpass, hmeets]

/-- A name that cannot be bound is where the walk ends. -/
theorem meets_of_bindNames_error {names : List String} {e' : SetupError}
    (hpassed : Passed before bound) (h : bindNames catalog options bound names = .error e')
    (rest : List Check) (e : SetupError) :
    Meets catalog e before (names.map .name ++ rest) ↔ e' = e := by
  induction names generalizing bound before with
  | nil => cases h
  | cons name names ih =>
    rw [List.map_cons, List.cons_append]
    rcases bindNames_cons_cases catalog options bound name names with
      ⟨hbound, heq⟩ | ⟨hnew, hunregistered, heq⟩ | ⟨hnew, activity, hget, heq⟩
    · obtain rfl := Except.error.inj (h.symm.trans heq)
      exact meets_cons_of_faults (.bound ((hpassed name).mpr hbound))
    · obtain rfl := Except.error.inj (h.symm.trans heq)
      exact meets_cons_of_faults (.unregistered (mt (hpassed name).mp hnew) hunregistered)
    · have hregistered := Catalog.mem_names_of_get? hget
      rw [meets_cons_of_pass (pass_name (mt (hpassed name).mp hnew) hregistered)]
      exact ih (hpassed.name name activity options) (heq ▸ h)

/-- Groups cannot be bound just if the walk over their checks meets the error. -/
theorem bindGroups_eq_error_iff {groups : List (AttemptOptions × List String)}
    (hpassed : Passed before bound) (e : SetupError) :
    bindGroups catalog bound groups = .error e ↔ Meets catalog e before (checksOf groups) := by
  induction groups generalizing bound before with
  | nil => exact iff_of_false (by simp [bindGroups]) not_meets_nil
  | cons g rest ih =>
    obtain ⟨options, names⟩ := g
    have hchecks : checksOf ((options, names) :: rest) =
        .policy options.retry :: (names.map .name ++ checksOf rest) := rfl
    rw [hchecks, bindGroups]
    cases hpolicy : options.retry.validate with
    | error fault =>
      rw [meets_cons_of_faults (.policy hpolicy)]
      exact ⟨Except.error.inj, congrArg Except.error⟩
    | ok value =>
      have hpassed := hpassed.policy options.retry
      rw [meets_cons_of_pass (pass_policy hpolicy)]
      cases hnames : bindNames catalog options bound names with
      | error fault =>
        rw [meets_of_bindNames_error hpassed hnames]
        simp only [Except.mapError, bind, Except.bind]
        exact ⟨Except.error.inj, congrArg Except.error⟩
      | ok next =>
        obtain ⟨hnext, hmeets⟩ := meets_of_bindNames_ok hpassed hnames (checksOf rest) e
        rw [hmeets, ← ih hnext]
        simp only [Except.mapError, bind, Except.bind]

theorem build_eq_ok_iff {workflow : String} {groups : List (AttemptOptions × List String)}
    {bindings : Bindings ω} :
    build catalog workflow groups = .ok bindings ↔
      (∀ g ∈ groups, g.1.retry.validate = .ok ()) ∧
        (∀ g ∈ groups, ∀ name ∈ g.2, name ∈ catalog.names) ∧ (groups.flatMap (·.2)).Nodup ∧
        bindings = ⟨workflow, groups.flatMap fun g => boundTo catalog g.1 g.2⟩ := by
  have hnone : (([] : List (Binding ω)).map (·.name)).Nodup := List.nodup_nil
  simp only [← Catalog.contains_iff_mem_names]
  rw [build]
  constructor
  · intro h
    cases hbind : bindGroups catalog [] groups with
    | error e =>
      rw [hbind] at h
      cases h
    | ok entries =>
      rw [hbind] at h
      obtain rfl := Except.ok.inj h
      obtain ⟨hpolicies, hregistered, hnodup, rfl⟩ := (bindGroups_eq_ok_iff hnone).mp hbind
      exact ⟨hpolicies, hregistered, hnodup, rfl⟩
  · rintro ⟨hpolicies, hregistered, hnodup, rfl⟩
    have hbind : bindGroups catalog [] groups = .ok _ :=
      (bindGroups_eq_ok_iff hnone).mpr ⟨hpolicies, hregistered, hnodup, rfl⟩
    rw [hbind]
    rfl

theorem build_eq_error_iff {workflow : String} {groups : List (AttemptOptions × List String)}
    (e : SetupError) :
    build catalog workflow groups = .error e ↔ Meets catalog e [] (checksOf groups) := by
  have hpassed : Passed [] ([] : List (Binding ω)) := by
    intro name
    simp
  rw [← bindGroups_eq_error_iff hpassed, build]
  cases bindGroups catalog [] groups with
  | error e' =>
    constructor
    · intro h
      rw [Except.error.inj h]
    · intro h
      rw [Except.error.inj h]
      rfl
  | ok entries =>
    constructor
    · intro h
      cases h
    · intro h
      cases h

/-- Where names are distinct each entry is found under its name. -/
theorem get?_of_mem {bindings : Bindings ω} (hnames : bindings.names.Nodup) {b : Binding ω}
    (hb : b ∈ bindings.entries) : bindings.get? b.name = some b := by
  obtain ⟨found, hfound, hname, hget⟩ := exists_get?_of_mem (List.mem_map_of_mem hb)
  rw [hget, List.inj_on_of_nodup_map hnames hfound hb hname]

end binding

/-- Groups of names can be bound exactly if every policy makes sense, also that of an empty group,
each name is registered and none is listed twice. The names are then bound in their order, each
to the activity registered under it, with the options of its group and on behalf of the given
workflow. Otherwise the error is the first that is met on the walk over the groups in which the
policy of a group comes before its names. -/
theorem build_walks (catalog : Catalog ω) (workflow : String)
    (groups : List (AttemptOptions × List String)) :
    ((∃ bindings, build catalog workflow groups = .ok bindings) ↔
      (∀ g ∈ groups, g.1.retry.validate = .ok ()) ∧
        (∀ g ∈ groups, ∀ name ∈ g.2, name ∈ catalog.names) ∧ (groups.flatMap (·.2)).Nodup) ∧
    (∀ bindings, build catalog workflow groups = .ok bindings →
      bindings.names = groups.flatMap (·.2) ∧ bindings.workflow = workflow ∧
        ∀ g ∈ groups, ∀ name ∈ g.2, ∃ activity, catalog.get? name = some activity ∧
          bindings.get? name = some ⟨name, activity, g.1⟩ ∧
          ∀ payload params, bindings.call name payload params =
            Engine.invoke activity ⟨payload, workflow, name, params⟩ g.1) ∧
    ∀ e, build catalog workflow groups = .error e ↔ Meets catalog e [] (checksOf groups) := by
  refine ⟨?_, ?_, build_eq_error_iff⟩
  · constructor
    · rintro ⟨bindings, h⟩
      obtain ⟨hpolicies, hregistered, hnodup, -⟩ := build_eq_ok_iff.mp h
      exact ⟨hpolicies, hregistered, hnodup⟩
    · rintro ⟨hpolicies, hregistered, hnodup⟩
      exact ⟨_, build_eq_ok_iff.mpr ⟨hpolicies, hregistered, hnodup, rfl⟩⟩
  · intro bindings h
    obtain ⟨-, hregistered, hnodup, rfl⟩ := build_eq_ok_iff.mp h
    have hnames : names (⟨workflow, groups.flatMap fun g => boundTo catalog g.1 g.2⟩ : Bindings ω) =
        groups.flatMap (·.2) := by
      rw [names, List.map_flatMap]
      refine List.flatMap_congr fun g hg => map_name_boundTo fun name hname => ?_
      exact Catalog.contains_iff_mem_names.mpr (hregistered g hg name hname)
    refine ⟨hnames, rfl, ?_⟩
    intro g hg name hname
    obtain ⟨activity, hactivity⟩ : ∃ activity, catalog.get? name = some activity :=
      Option.isSome_iff_exists.mp
        (Catalog.contains_iff_mem_names.mpr (hregistered g hg name hname))
    have hget : get? ⟨workflow, groups.flatMap fun g => boundTo catalog g.1 g.2⟩ name =
        some ⟨name, activity, g.1⟩ := by
      refine get?_of_mem (b := ⟨name, activity, g.1⟩) (hnames ▸ hnodup) ?_
      exact List.mem_flatMap.mpr ⟨g, hg, mem_boundTo.mpr ⟨hname, hactivity, rfl⟩⟩
    refine ⟨activity, hactivity, hget, fun payload params => ?_⟩
    rw [call, require, hget]
    rfl

/-- Two names in three groups, of which one is empty, are bound with the options of their groups.
If the policy of the empty group makes no sense, it is met before a repetition behind it. -/
theorem build_walks_three :
    let catalog : Catalog Unit := ⟨[("publish", .echo), ("extract", .echo)]⟩
    let hasty : AttemptOptions :=
      { AttemptOptions.standard with retry.maximumInterval := Span.zero }
    (∃ bindings, build catalog "ingest" [(.standard, ["extract"]), (.longRunning, []),
        (.longRunning, ["publish"])] = .ok bindings ∧
      bindings.names = ["extract", "publish"] ∧ bindings.workflow = "ingest" ∧
      bindings.get? "publish" = some ⟨"publish", .echo, .longRunning⟩) ∧
    build catalog "ingest" [(.standard, ["extract"]), (hasty, []), (.standard, ["extract"])] =
      .error (.invalidPolicy (.intervals .zero (.seconds 1))) := by
  intro catalog hasty
  have hstandard : AttemptOptions.standard.retry.validate = .ok () := by decide +kernel
  have hlong : AttemptOptions.longRunning.retry.validate = .ok () := by decide +kernel
  have hhasty : hasty.retry.validate = .error (.intervals .zero (.seconds 1)) := by decide +kernel
  constructor
  · obtain ⟨hok, hbindings, -⟩ := build_walks catalog "ingest"
      [(.standard, ["extract"]), (.longRunning, []), (.longRunning, ["publish"])]
    obtain ⟨bindings, h⟩ := hok.mpr ⟨by simp [hstandard, hlong], by decide, by decide⟩
    obtain ⟨hnames, hworkflow, hcalls⟩ := hbindings bindings h
    obtain ⟨activity, hactivity, hget, -⟩ :=
      hcalls (.longRunning, ["publish"]) (by simp) "publish" (by simp)
    obtain rfl : Activity.echo = activity := Option.some.inj hactivity
    exact ⟨bindings, h, hnames, hworkflow, hget⟩
  · obtain ⟨-, -, herror⟩ := build_walks catalog "ingest"
      [(.standard, ["extract"]), (hasty, []), (.standard, ["extract"])]
    have hextract : "extract" ∈ catalog.names := by decide
    refine (herror _).mpr (.later (pass_policy hstandard) (.later (pass_name ?_ hextract) ?_))
    · simp
    · exact .here (.policy hhasty)

end ActivityFlow.Bindings
