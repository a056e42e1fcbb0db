import ActivityFlow.Bindings
import ActivityFlow.Groups.Document
import ActivityFlow.Proofs.Document.Named
import Mathlib.Data.List.Forall2
import Mathlib.Data.List.Nodup
import Mathlib.Data.List.Perm.Basic

/-!
# The options of bound activities

Groups make sense together if all policies do and no activity is listed twice. Bindings are
made name by name under the same conditions, so such groups always give bindings: first the
registered activities that groups list, in the order of the groups, then all others with the
options of the default group.
-/
namespace ActivityFlow

/-! ## Groups -/

namespace Groups

variable {groups : Groups}

def listed (groups : Groups) : List String := groups.flatMap fun e => e.2.activities

theorem checkNames_eq_ok_iff {seen names out : List String} (hseen : seen.Nodup) :
    checkNames seen names = .ok out ↔ (seen ++ names).Nodup ∧ out = seen ++ names := by
  induction names generalizing seen with
  | nil => simp [checkNames, hseen, eq_comm]
  | cons name rest ih =>
    by_cases hmem : name ∈ seen
    · have hdup : ¬ (seen ++ name :: rest).Nodup := by
        intro hnodup
        exact (List.nodup_append.mp hnodup).2.2 name hmem name (List.mem_cons_self ..) rfl
      simp [checkNames, hmem, hdup]
    · have hnext : (seen ++ [name]).Nodup := by simpa using List.Nodup.concat hmem hseen
      rw [checkNames, if_neg (by simpa using hmem), ih hnext, ← List.append_cons]

theorem checkFrom_eq_ok_iff {seen : List String} (hseen : seen.Nodup) :
    checkFrom seen groups = .ok () ↔
      (∀ e ∈ groups, e.2.options.retry.validate = .ok ()) ∧ (seen ++ groups.listed).Nodup := by
  induction groups generalizing seen with
  | nil => simp [checkFrom, listed, hseen]
  | cons e rest ih =>
    obtain ⟨name, group⟩ := e
    unfold checkFrom
    cases hpolicy : group.options.retry.validate with
    | error fault => simp [Except.mapError, bind, Except.bind, hpolicy]
    | ok value =>
      cases hnames : checkNames seen group.activities with
      | error fault =>
        have hdup : ¬ (seen ++ group.activities).Nodup := by
          intro hnodup
          have hok := (checkNames_eq_ok_iff hseen).mpr ⟨hnodup, rfl⟩
          rw [hnames] at hok
          cases hok
        have hall : ¬ (seen ++ listed ((name, group) :: rest)).Nodup := by
          intro hnodup
          refine hdup (hnodup.sublist ?_)
          exact List.Sublist.append_left (by simp [listed]) seen
        simp [Except.mapError, bind, Except.bind, hall]
      | ok next =>
        obtain ⟨hnodup, rfl⟩ := (checkNames_eq_ok_iff hseen).mp hnames
        have hrest : (checkFrom (seen ++ group.activities) rest = .ok ()) ↔ _ := ih hnodup
        simpa [Except.mapError, bind, Except.bind, hpolicy, listed] using hrest

/-- Groups make sense exactly if all policies do and no activity is listed twice. -/
theorem validate_eq_ok_iff : groups.validate = .ok () ↔
    (∀ e ∈ groups, e.2.options.retry.validate = .ok ()) ∧ groups.listed.Nodup := by
  rw [validate, checkFrom_eq_ok_iff List.nodup_nil, List.nil_append]

/-- What the groups of a configuration have: distinct names, sensible policies, no activity
listed twice, and a default group among them. -/
structure Sound (groups : Groups) : Prop where
  distinct : (groups.map Prod.fst).Nodup
  valid : groups.validate = .ok ()
  standard : "default" ∈ groups.map Prod.fst

/-- Groups of a document only replace built-in groups or follow them. -/
theorem overlay_keys (document : Groups) :
    ((overlay document).map Prod.fst).Nodup ∧ defaultName ∈ (overlay document).map Prod.fst := by
  have hoverlay : overlay document = putAll builtIn document := rfl
  rw [hoverlay]
  refine ⟨nodup_putAll (by decide) document, ?_⟩
  rw [map_fst_putAll]
  exact List.mem_append_left _ (by decide)

theorem sound_builtIn : builtIn.Sound := ⟨by decide, by decide +kernel, by decide⟩

theorem sound_of_parse {text : String} (h : parse text = .ok groups) : groups.Sound := by
  rw [parse] at h
  cases hread : read? text with
  | none => simp [hread] at h
  | some document =>
    cases hvalid : (overlay document).validate with
    | error fault => simp [hread, configure, hvalid, bind, Except.bind, Except.mapError] at h
    | ok value =>
      obtain rfl : overlay document = groups := by
        simpa [hread, configure, hvalid, bind, Except.bind, Except.mapError, pure,
          Except.pure] using h
      obtain ⟨hdistinct, hstandard⟩ := overlay_keys document
      exact ⟨hdistinct, hvalid, hstandard⟩

/-- The groups give an activity its options: those of a group that lists it, or those of the
default group if none does. -/
def Gives (groups : Groups) (name : String) (options : AttemptOptions) : Prop :=
  (∃ e ∈ groups, name ∈ e.2.activities ∧ e.2.options = options) ∨
    (name ∉ groups.listed ∧ ∃ e ∈ groups, e.1 = "default" ∧ e.2.options = options)

theorem mem_listed {name : String} :
    name ∈ groups.listed ↔ ∃ e ∈ groups, name ∈ e.2.activities := by
  simp only [listed, List.mem_flatMap]

theorem place_unique (hlisted : groups.listed.Nodup) {name : String} {i j : Nat}
    {e f : String × Group} (hi : groups[i]? = some e) (hj : groups[j]? = some f)
    (he : name ∈ e.2.activities) (hf : name ∈ f.2.activities) : i = j := by
  have hpair := (List.nodup_flatMap.mp hlisted).2
  have happart : ∀ {i j : Nat} {e f : String × Group}, groups[i]? = some e →
      groups[j]? = some f → name ∈ e.2.activities → name ∈ f.2.activities → ¬ i < j := by
    intro i j e f hi hj he hf hlt
    obtain ⟨hi', rfl⟩ := List.getElem?_eq_some_iff.mp hi
    obtain ⟨hj', rfl⟩ := List.getElem?_eq_some_iff.mp hj
    exact List.pairwise_iff_getElem.mp hpair i j hi' hj' hlt he hf
  have hle := happart hi hj he hf
  have hge := happart hj hi hf he
  omega

theorem Gives.unique (hsound : groups.Sound) {name : String} {a b : AttemptOptions}
    (ha : groups.Gives name a) (hb : groups.Gives name b) : a = b := by
  have hlisted := (validate_eq_ok_iff.mp hsound.valid).2
  rcases ha with ⟨e, he, hname, rfl⟩ | ⟨hnone, e, he, hdefault, rfl⟩
  · rcases hb with ⟨f, hf, hname', rfl⟩ | ⟨hnone, -⟩
    · obtain ⟨i, hi⟩ := List.mem_iff_getElem?.mp he
      obtain ⟨j, hj⟩ := List.mem_iff_getElem?.mp hf
      obtain rfl := place_unique hlisted hi hj hname hname'
      rw [Option.some.inj (hi.symm.trans hj)]
    · exact absurd (mem_listed.mpr ⟨e, he, hname⟩) hnone
  · rcases hb with ⟨f, hf, hname', -⟩ | ⟨-, f, hf, hdefault', rfl⟩
    · exact absurd (mem_listed.mpr ⟨f, hf, hname'⟩) hnone
    · rw [List.inj_on_of_nodup_map hsound.distinct he hf (hdefault.trans hdefault'.symm)]

theorem options_eq_ok_iff (hdistinct : (groups.map Prod.fst).Nodup) {name : String}
    {options : AttemptOptions} :
    groups.options name = .ok options ↔ ∃ e ∈ groups, e.1 = name ∧ e.2.options = options := by
  induction groups with
  | nil => simp [Groups.options, get?]
  | cons first rest ih =>
    rw [List.map_cons, List.nodup_cons] at hdistinct
    obtain ⟨hfirst, hrest⟩ := hdistinct
    by_cases hname : first.1 = name
    · have hothers : ∀ e ∈ rest, e.1 ≠ name := by
        rintro e he rfl
        exact hfirst (hname ▸ List.mem_map_of_mem he)
      have hnone : ¬ ∃ e ∈ rest, e.1 = name ∧ e.2.options = options :=
        fun ⟨e, he, heq, _⟩ => hothers e he heq
      simp [Groups.options, get?, hname, hnone]
    · have hskip : Groups.options (first :: rest) name = Groups.options rest name := by
        simp [Groups.options, get?, hname]
      rw [hskip, ih hrest]
      simp [hname]

end Groups

/-- The second group is the first one, perhaps with further activities that a catalog does not
have. -/
structure Enlarged {ω : Type} (catalog : Catalog ω) (e f : String × Group) : Prop where
  name : f.1 = e.1
  options : f.2.options = e.2.options
  kept : e.2.activities.Sublist f.2.activities
  added : ∀ name ∈ f.2.activities, name ∉ e.2.activities → catalog.contains name = false

/-- The groups stand in another order, and may list further activities that a catalog does not
have. -/
def Groups.Rearranged {ω : Type} (catalog : Catalog ω) (groups other : Groups) : Prop :=
  ∃ moved, groups.Perm moved ∧ List.Forall₂ (Enlarged catalog) moved other

namespace Groups.Rearranged

variable {ω : Type} {catalog : Catalog ω} {groups other : Groups}

theorem map_fst_perm (h : groups.Rearranged catalog other) :
    (groups.map Prod.fst).Perm (other.map Prod.fst) := by
  obtain ⟨moved, hperm, hall⟩ := h
  have hnames : moved.map Prod.fst = other.map Prod.fst := by
    refine List.forall₂_eq_eq_eq ▸ ?_
    exact List.forall₂_map_left_iff.mpr (List.forall₂_map_right_iff.mpr
      (hall.imp fun e f henlarged => henlarged.name.symm))
  exact hnames ▸ hperm.map Prod.fst

theorem sound (h : groups.Rearranged catalog other) (hsound : groups.Sound)
    (hvalid : other.validate = .ok ()) : other.Sound :=
  ⟨h.map_fst_perm.nodup_iff.mp hsound.distinct, hvalid,
    h.map_fst_perm.mem_iff.mp hsound.standard⟩

theorem exists_right (h : groups.Rearranged catalog other) {e : String × Group}
    (he : e ∈ groups) : ∃ f ∈ other, Enlarged catalog e f := by
  obtain ⟨moved, hperm, hall⟩ := h
  obtain ⟨i, hi⟩ := List.mem_iff_getElem?.mp (hperm.mem_iff.mp he)
  obtain ⟨hlt, rfl⟩ := List.getElem?_eq_some_iff.mp hi
  exact ⟨other.get ⟨i, hall.length_eq ▸ hlt⟩, List.get_mem .., hall.get hlt _⟩

theorem exists_left (h : groups.Rearranged catalog other) {f : String × Group}
    (hf : f ∈ other) : ∃ e ∈ groups, Enlarged catalog e f := by
  obtain ⟨moved, hperm, hall⟩ := h
  obtain ⟨i, hi⟩ := List.mem_iff_getElem?.mp hf
  obtain ⟨hlt, rfl⟩ := List.getElem?_eq_some_iff.mp hi
  have hlt' : i < moved.length := hall.length_eq ▸ hlt
  exact ⟨moved[i], hperm.mem_iff.mpr (List.getElem_mem _), hall.get hlt' _⟩

/-- A registered activity is given the same options. -/
theorem gives (h : groups.Rearranged catalog other) {name : String}
    (hreg : catalog.contains name = true) {options : AttemptOptions}
    (hgives : groups.Gives name options) : other.Gives name options := by
  rcases hgives with ⟨e, he, hname, rfl⟩ | ⟨hnone, e, he, hdefault, rfl⟩
  · obtain ⟨f, hf, henlarged⟩ := h.exists_right he
    exact Or.inl ⟨f, hf, henlarged.kept.subset hname, henlarged.options⟩
  · refine Or.inr ⟨?_, ?_⟩
    · intro hlisted
      obtain ⟨f, hf, hname⟩ := mem_listed.mp hlisted
      obtain ⟨e, he, henlarged⟩ := h.exists_left hf
      have hnot : name ∉ e.2.activities := fun hin => hnone (mem_listed.mpr ⟨e, he, hin⟩)
      simp [henlarged.added name hname hnot] at hreg
    · obtain ⟨f, hf, henlarged⟩ := h.exists_right he
      exact ⟨f, hf, henlarged.name.trans hdefault, henlarged.options⟩

end Groups.Rearranged

/-! ## Bindings -/

namespace Catalog

variable {ω : Type} {catalog : Catalog ω}

theorem contains_iff_mem_names {name : String} :
    catalog.contains name = true ↔ name ∈ catalog.names := by
  simp only [contains, get?, names, List.mem_map, List.lookup_isSome_iff, beq_iff_eq]
  constructor
  · rintro ⟨e, he, rfl⟩
    exact ⟨e, he, rfl⟩
  · rintro ⟨e, he, rfl⟩
    exact ⟨e, he, rfl⟩

theorem mem_names_of_get? {name : String} {activity : Activity ω}
    (h : catalog.get? name = some activity) : name ∈ catalog.names := by
  rw [← contains_iff_mem_names, contains, h]
  rfl

/-- Registration keeps names distinct. -/
theorem names_nodup_of_register {name : String} {activity : Activity ω} {grown : Catalog ω}
    (h : catalog.names.Nodup) (hreg : catalog.register name activity = .ok grown) :
    grown.names.Nodup := by
  rw [register] at hreg
  split_ifs at hreg with hmem
  obtain rfl := Except.ok.inj hreg
  have hnot : name ∉ catalog.names := fun hname => hmem (contains_iff_mem_names.mpr hname)
  have hgrown : (Catalog.mk (catalog.entries ++ [(name, activity)])).names =
      catalog.names ++ [name] := by simp [names]
  rw [hgrown]
  simpa using List.Nodup.concat hnot h

end Catalog

namespace Bindings

variable {ω : Type} {catalog : Catalog ω}

/-- The bindings of registered names to one set of options. -/
def boundTo (catalog : Catalog ω) (options : AttemptOptions) (names : List String) :
    List (Binding ω) :=
  names.filterMap fun name =>
    (catalog.get? name).map fun activity => ⟨name, activity, options⟩

theorem mem_boundTo {options : AttemptOptions} {names : List String} {b : Binding ω} :
    b ∈ boundTo catalog options names ↔
      b.name ∈ names ∧ catalog.get? b.name = some b.activity ∧ b.options = options := by
  obtain ⟨name, activity, own⟩ := b
  simp only [boundTo, List.mem_filterMap, Option.map_eq_some_iff, Binding.mk.injEq]
  constructor
  · rintro ⟨_, hmem, _, hget, rfl, rfl, rfl⟩
    exact ⟨hmem, hget, rfl⟩
  · rintro ⟨hmem, hget, rfl⟩
    exact ⟨name, hmem, activity, hget, rfl, rfl, rfl⟩

theorem map_name_boundTo {options : AttemptOptions} {names : List String}
    (h : ∀ name ∈ names, catalog.contains name = true) :
    (boundTo catalog options names).map (·.name) = names := by
  induction names with
  | nil => rfl
  | cons name rest ih =>
    obtain ⟨activity, hget⟩ := Option.isSome_iff_exists.mp (h name (List.mem_cons_self ..))
    have hrest := ih fun other hmem => h other (List.mem_cons_of_mem name hmem)
    simp only [boundTo] at hrest
    simp [boundTo, hget, hrest]

/-- One name cannot be bound if it is bound already or not registered; otherwise binding goes
on behind it. -/
theorem bindNames_cons_cases (catalog : Catalog ω) (options : AttemptOptions)
    (bound : List (Binding ω)) (name : String) (rest : List String) :
    (name ∈ bound.map (·.name) ∧
        bindNames catalog options bound (name :: rest) = .error (.duplicateBinding name)) ∨
      (name ∉ bound.map (·.name) ∧ name ∉ catalog.names ∧
        bindNames catalog options bound (name :: rest) = .error (.unknownActivity name)) ∨
      (name ∉ bound.map (·.name) ∧ ∃ activity, catalog.get? name = some activity ∧
        bindNames catalog options bound (name :: rest) =
          bindNames catalog options (bound ++ [⟨name, activity, options⟩]) rest) := by
  have hany : (bound.any fun entry => entry.name == name) = true ↔ name ∈ bound.map (·.name) := by
    simp [List.mem_map]
  rw [bindNames]
  by_cases hmem : name ∈ bound.map (·.name)
  · exact .inl ⟨hmem, if_pos (hany.mpr hmem)⟩
  rw [if_neg (mt hany.mp hmem)]
  cases hget : catalog.get? name with
  | none =>
    have hnot : name ∉ catalog.names := by
      rw [← Catalog.contains_iff_mem_names, Catalog.contains, hget, Option.isSome_none]
      exact Bool.false_ne_true
    exact .inr (.inl ⟨hmem, hnot, rfl⟩)
  | some activity => exact .inr (.inr ⟨hmem, activity, rfl, rfl⟩)

theorem bindNames_eq_ok_iff {options : AttemptOptions} {bound out : List (Binding ω)}
    {names : List String} (hbound : (bound.map (·.name)).Nodup) :
    bindNames catalog options bound names = .ok out ↔
      (∀ name ∈ names, catalog.contains name = true) ∧
        (bound.map (·.name) ++ names).Nodup ∧ out = bound ++ boundTo catalog options names := by
  induction names generalizing bound with
  | nil =>
    simp only [bindNames, boundTo, List.filterMap_nil, List.append_nil, Except.ok.injEq,
      List.not_mem_nil, IsEmpty.forall_iff, implies_true, hbound, true_and]
    exact eq_comm
  | cons name rest ih =>
    rcases bindNames_cons_cases catalog options bound name rest with
      ⟨hmem, heq⟩ | ⟨-, hunregistered, heq⟩ | ⟨hmem, activity, hget, heq⟩
    · have hdup : ¬ (bound.map (·.name) ++ name :: rest).Nodup := by
        intro hnodup
        exact (List.nodup_append.mp hnodup).2.2 name hmem name (List.mem_cons_self ..) rfl
      simp [heq, hdup]
    · have hnot : catalog.contains name = false :=
        Bool.eq_false_iff.mpr (mt Catalog.contains_iff_mem_names.mp hunregistered)
      simp [heq, hnot]
    · have hnext : ((bound ++ [(⟨name, activity, options⟩ : Binding ω)]).map
          (·.name)).Nodup := by
        rw [List.map_append]
        simpa using List.Nodup.concat hmem hbound
      have hhere : catalog.contains name = true :=
        Catalog.contains_iff_mem_names.mpr (Catalog.mem_names_of_get? hget)
      simp only [heq, ih hnext, List.forall_mem_cons, hhere, true_and]
      simp [boundTo, hget]

/-- Groups of names can be bound exactly if their policies make sense and each name is
registered and new; the bindings then stand in the order of the names. -/
theorem bindGroups_eq_ok_iff {bound out : List (Binding ω)}
    {groups : List (AttemptOptions × List String)} (hbound : (bound.map (·.name)).Nodup) :
    bindGroups catalog bound groups = .ok out ↔
      (∀ g ∈ groups, g.1.retry.validate = .ok ()) ∧
        (∀ g ∈ groups, ∀ name ∈ g.2, catalog.contains name = true) ∧
        (bound.map (·.name) ++ groups.flatMap (·.2)).Nodup ∧
        out = bound ++ groups.flatMap fun g => boundTo catalog g.1 g.2 := by
  induction groups generalizing bound with
  | nil =>
    simp only [bindGroups, List.flatMap_nil, List.append_nil, Except.ok.injEq, List.not_mem_nil,
      IsEmpty.forall_iff, implies_true, hbound, true_and]
    exact eq_comm
  | cons g rest ih =>
    obtain ⟨options, names⟩ := g
    unfold bindGroups
    cases hpolicy : options.retry.validate with
    | error fault => simp [Except.mapError, bind, Except.bind, hpolicy]
    | ok value =>
      simp only [Except.mapError, bind, Except.bind]
      cases hnames : bindNames catalog options bound names with
      | error fault =>
        have hbad : bindNames catalog options bound names =
            .ok (bound ++ boundTo catalog options names) ↔ _ := bindNames_eq_ok_iff hbound
        simp only [hnames, reduceCtorEq, false_iff, and_true, not_and] at hbad
        simp only [reduceCtorEq, List.forall_mem_cons, List.flatMap_cons, false_iff, not_and]
        rintro - ⟨hreg, -⟩ hnodup
        refine absurd (hnodup.sublist ?_) (hbad hreg)
        exact List.Sublist.append_left (List.sublist_append_left ..) _
      | ok next =>
        obtain ⟨hreg, hnodup, rfl⟩ := (bindNames_eq_ok_iff hbound).mp hnames
        have hnext : (bound ++ boundTo catalog options names).map (·.name) =
            bound.map (·.name) ++ names := by rw [List.map_append, map_name_boundTo hreg]
        rw [ih (hnext ▸ hnodup), hnext]
        simp only [List.forall_mem_cons, hpolicy, true_and, and_iff_right hreg,
          List.flatMap_cons, List.append_assoc]

/-! ## Bindings of groups -/

variable {groups : Groups}

/-- The activities that are left to the default group. -/
def unlisted (catalog : Catalog ω) (groups : Groups) : List String :=
  catalog.names.filter fun name => name ∉ groups.listed

theorem flatMap_listedGroups (catalog : Catalog ω) (groups : Groups) :
    (listedGroups catalog groups).flatMap (·.2) = groups.listed.filter catalog.contains := by
  induction groups with
  | nil => rfl
  | cons e rest ih =>
    simp only [listedGroups] at ih
    simp only [listedGroups, List.filterMap_cons, Groups.listed, List.flatMap_cons,
      List.filter_append]
    by_cases hnone : (e.2.activities.filter catalog.contains).isEmpty = true
    · rw [if_pos hnone, ih, List.isEmpty_iff.mp hnone, List.nil_append, Groups.listed]
    · rw [if_neg hnone, List.flatMap_cons, ih, Groups.listed]

theorem mem_listedGroups {g : AttemptOptions × List String} (h : g ∈ listedGroups catalog groups) :
    ∃ e ∈ groups, g = (e.2.options, e.2.activities.filter catalog.contains) := by
  obtain ⟨e, he, hg⟩ := List.mem_filterMap.mp h
  simp only at hg
  split_ifs at hg
  exact ⟨e, he, (Option.some.inj hg).symm⟩

/-- What is left over is what no group lists. -/
theorem filter_not_any_listedGroups (catalog : Catalog ω) (groups : Groups) :
    (catalog.names.filter fun name =>
        !(listedGroups catalog groups).any fun g => g.2.contains name) =
      unlisted catalog groups := by
  refine List.filter_congr fun name hname => ?_
  have hreg := Catalog.contains_iff_mem_names.mpr hname
  have hmem : (∃ g ∈ listedGroups catalog groups, name ∈ g.2) ↔ name ∈ groups.listed := by
    rw [← List.mem_flatMap, flatMap_listedGroups, List.mem_filter, and_iff_left hreg]
  simp only [← hmem, List.any_eq, List.contains_iff_mem, decide_not]

/-- The names of the bindings that groups give, in order. -/
def orderedNames (catalog : Catalog ω) (groups : Groups) : List String :=
  groups.listed.filter catalog.contains ++ unlisted catalog groups

theorem orderedNames_perm (hnames : catalog.names.Nodup) (hlisted : groups.listed.Nodup) :
    (orderedNames catalog groups).Perm catalog.names := by
  have hnodup : (orderedNames catalog groups).Nodup := by
    refine List.nodup_append.mpr ⟨hlisted.filter _, hnames.filter _, ?_⟩
    rintro a ha b hb rfl
    have hin := (List.mem_filter.mp ha).1
    have hout := (List.mem_filter.mp hb).2
    simp [hin] at hout
  refine (List.perm_ext_iff_of_nodup hnodup hnames).mpr fun name => ?_
  simp only [orderedNames, unlisted, List.mem_append, List.mem_filter,
    Catalog.contains_iff_mem_names, decide_eq_true_eq]
  tauto

/-- Sound groups give bindings: one for each registered activity and no other, in order, with
the options that the groups give it. -/
theorem exists_ofGroups (hnames : catalog.names.Nodup) (hsound : groups.Sound)
    (workflow : String) :
    ∃ bindings, ofGroups catalog workflow groups = .ok bindings ∧
      bindings.names = orderedNames catalog groups ∧
      ∀ b ∈ bindings.entries, catalog.get? b.name = some b.activity ∧
        groups.Gives b.name b.options := by
  obtain ⟨hpolicies, hlisted⟩ := Groups.validate_eq_ok_iff.mp hsound.valid
  obtain ⟨standard, hstandard, hdefault⟩ := List.mem_map.mp hsound.standard
  have hoptions : groups.options Groups.defaultName = .ok standard.2.options :=
    (Groups.options_eq_ok_iff hsound.distinct).mpr ⟨standard, hstandard, hdefault, rfl⟩
  let parts := listedGroups catalog groups ++ [(standard.2.options, unlisted catalog groups)]
  have hflat : parts.flatMap (·.2) = orderedNames catalog groups := by
    simp [parts, flatMap_listedGroups, orderedNames]
  have hregistered : ∀ g ∈ parts, ∀ name ∈ g.2, catalog.contains name = true := by
    intro g hg name hname
    have hmem : name ∈ parts.flatMap (·.2) := List.mem_flatMap.mpr ⟨g, hg, hname⟩
    rw [hflat, (orderedNames_perm hnames hlisted).mem_iff] at hmem
    exact Catalog.contains_iff_mem_names.mpr hmem
  have hsensible : ∀ g ∈ parts, g.1.retry.validate = .ok () := by
    intro g hg
    rcases List.mem_append.mp hg with hg | hg
    · obtain ⟨e, he, rfl⟩ := mem_listedGroups hg
      exact hpolicies e he
    · obtain rfl := List.mem_singleton.mp hg
      exact hpolicies standard hstandard
  have hbind : bindGroups catalog [] parts =
      .ok (parts.flatMap fun g => boundTo catalog g.1 g.2) := by
    refine (bindGroups_eq_ok_iff (by simp)).mpr ⟨hsensible, hregistered, ?_, rfl⟩
    simpa [hflat] using (orderedNames_perm hnames hlisted).nodup_iff.mpr hnames
  refine ⟨⟨workflow, parts.flatMap fun g => boundTo catalog g.1 g.2⟩, ?_, ?_, ?_⟩
  · simp only [ofGroups, filter_not_any_listedGroups, hoptions, build]
    simp only [bind, Except.bind, parts] at hbind ⊢
    rw [hbind]
    rfl
  · rw [← hflat, names, List.map_flatMap]
    exact List.flatMap_congr fun g hg => map_name_boundTo (hregistered g hg)
  · intro b hb
    obtain ⟨g, hg, hb⟩ := List.mem_flatMap.mp hb
    obtain ⟨hname, hget, hown⟩ := mem_boundTo.mp hb
    refine ⟨hget, ?_⟩
    rcases List.mem_append.mp hg with hg | hg
    · obtain ⟨e, he, rfl⟩ := mem_listedGroups hg
      exact Or.inl ⟨e, he, (List.mem_filter.mp hname).1, hown.symm⟩
    · obtain rfl := List.mem_singleton.mp hg
      have hnone : b.name ∉ groups.listed := by simpa using (List.mem_filter.mp hname).2
      exact Or.inr ⟨hnone, standard, hstandard, hdefault, hown.symm⟩

theorem get?_eq_none_of_notMem {bindings : Bindings ω} {name : String}
    (h : name ∉ bindings.names) : bindings.get? name = none := by
  refine List.find?_eq_none.mpr fun b hb hname => h ?_
  exact List.mem_map.mpr ⟨b, hb, by simpa using hname⟩

theorem exists_get?_of_mem {bindings : Bindings ω} {name : String} (h : name ∈ bindings.names) :
    ∃ b ∈ bindings.entries, b.name = name ∧ bindings.get? name = some b := by
  obtain ⟨b, hb, hname⟩ := List.mem_map.mp h
  obtain ⟨found, hfound⟩ := Option.isSome_iff_exists.mp
    (List.find?_isSome (p := fun entry => entry.name == name).mpr ⟨b, hb, by simpa using hname⟩)
  exact ⟨found, List.mem_of_find?_eq_some hfound, by simpa using List.find?_some hfound, hfound⟩

theorem contains_iff_mem_names {bindings : Bindings ω} {name : String} :
    bindings.contains name = true ↔ name ∈ bindings.names := by
  constructor
  · intro hcontains
    by_contra hnot
    rw [contains, get?_eq_none_of_notMem hnot] at hcontains
    cases hcontains
  · intro hmem
    obtain ⟨b, -, -, hget⟩ := exists_get?_of_mem hmem
    rw [contains, hget, Option.isSome_some]

/-- Rearranged groups give every activity the same options. -/
theorem options_of_rearranged (hsound : groups.Sound)
    {other : Groups} (hother : groups.Rearranged catalog other) {bindings again : Bindings ω}
    (hperm : bindings.names.Perm catalog.names) (hagain : again.names.Perm catalog.names)
    (hgives : ∀ b ∈ bindings.entries, groups.Gives b.name b.options)
    (hgives' : ∀ b ∈ again.entries, other.Gives b.name b.options)
    (hvalid : other.validate = .ok ()) (name : String) :
    (again.get? name).map (·.options) = (bindings.get? name).map (·.options) := by
  by_cases hname : name ∈ catalog.names
  · obtain ⟨b, hb, rfl, hget⟩ := exists_get?_of_mem (hperm.mem_iff.mpr hname)
    obtain ⟨c, hc, hcname, hget'⟩ := exists_get?_of_mem (hagain.mem_iff.mpr hname)
    have hmoved := hother.gives (Catalog.contains_iff_mem_names.mpr hname) (hgives b hb)
    have hown := hcname ▸ hgives' c hc
    rw [hget, hget', Option.map_some, Option.map_some,
      hown.unique (hother.sound hsound hvalid) hmoved]
  · rw [get?_eq_none_of_notMem (mt hperm.mem_iff.mp hname),
      get?_eq_none_of_notMem (mt hagain.mem_iff.mp hname)]

/-- Groups that make sense and have a default group bind every activity of a catalog once and
nothing else: first the registered activities that they list, then all others in the order of
registration. An activity has the options of the one group that lists it, or else those of the
default group, so neither the order of the groups nor names that are not registered matter.
The built-in groups and all groups that are read from a text are of this kind, and registration
keeps the names of a catalog distinct. -/
theorem ofGroups_assignment (catalog : Catalog ω) (hnames : catalog.names.Nodup)
    (workflow : String) :
    (∀ groups : Groups, groups.Sound →
      ∃ bindings, ofGroups catalog workflow groups = .ok bindings ∧
        bindings.names.Perm catalog.names ∧
        bindings.names = (groups.flatMap fun e => e.2.activities).filter catalog.contains ++
          catalog.names.filter (fun name => name ∉ groups.flatMap fun e => e.2.activities) ∧
        (∀ b ∈ bindings.entries, catalog.get? b.name = some b.activity ∧
          (∀ (i : Nat) (e : String × Group), groups[i]? = some e → b.name ∈ e.2.activities →
            b.options = e.2.options ∧
            ∀ (j : Nat) (f : String × Group), groups[j]? = some f → b.name ∈ f.2.activities →
              j = i) ∧
          ((∀ e ∈ groups, b.name ∉ e.2.activities) →
            ∃ e ∈ groups, e.1 = "default" ∧ e.2.options = b.options)) ∧
        ∀ other : Groups, other.validate = .ok () → groups.Rearranged catalog other →
          ∃ again, ofGroups catalog workflow other = .ok again ∧
            ∀ name, (again.get? name).map (·.options) = (bindings.get? name).map (·.options)) ∧
    Groups.builtIn.Sound ∧
    ∀ text groups, Groups.parse text = .ok groups → groups.Sound := by
  refine ⟨?_, Groups.sound_builtIn, fun text groups h => Groups.sound_of_parse h⟩
  intro groups hsound
  have hlisted := (Groups.validate_eq_ok_iff.mp hsound.valid).2
  obtain ⟨bindings, hbindings, horder, hall⟩ := exists_ofGroups hnames hsound workflow
  have hperm : bindings.names.Perm catalog.names := horder ▸ orderedNames_perm hnames hlisted
  refine ⟨bindings, hbindings, hperm, horder, ?_, ?_⟩
  · intro b hb
    obtain ⟨hget, hgives⟩ := hall b hb
    refine ⟨hget, ?_, ?_⟩
    · intro i e hi hname
      refine ⟨hgives.unique hsound (Or.inl ⟨e, List.mem_of_getElem? hi, hname, rfl⟩), ?_⟩
      intro j f hj hname'
      exact Groups.place_unique hlisted hj hi hname' hname
    · intro hnone
      rcases hgives with ⟨e, he, hname, -⟩ | ⟨-, hstandard⟩
      · exact absurd hname (hnone e he)
      · exact hstandard
  · intro other hvalid hother
    have hsound' := hother.sound hsound hvalid
    obtain ⟨again, hagain, horder', hall'⟩ := exists_ofGroups hnames hsound' workflow
    have hperm' : again.names.Perm catalog.names :=
      horder' ▸ orderedNames_perm hnames (Groups.validate_eq_ok_iff.mp hvalid).2
    exact ⟨again, hagain, options_of_rearranged hsound hother hperm hperm'
      (fun b hb => (hall b hb).2) (fun b hb => (hall' b hb).2) hvalid⟩

/-- The default group lists one activity and the group for long ones another, beside a name
that the catalog does not have. The third activity is left to the default group, which has options
of its own. Turned around, and with another unknown name, the groups give all three the same
options. -/
theorem ofGroups_assignment_three :
    let catalog : Catalog Unit :=
      ⟨[("publish", .echo), ("extract_text", .echo), ("transcribe_media", .echo)]⟩
    let hurried : AttemptOptions := ⟨.seconds 7, .single⟩
    let groups : Groups := [("default", ⟨hurried, ["extract_text"]⟩),
      ("long_running", ⟨.longRunning, ["transcode", "transcribe_media"]⟩)]
    let other : Groups := [("long_running", ⟨.longRunning, ["transcode", "transcribe_media"]⟩),
      ("default", ⟨hurried, ["extract_text", "translate"]⟩)]
    groups.Sound ∧ groups.Rearranged catalog other ∧
      ∃ bindings again, ofGroups catalog "ingest" groups = .ok bindings ∧
        ofGroups catalog "ingest" other = .ok again ∧
        bindings.names = ["extract_text", "transcribe_media", "publish"] ∧
        (bindings.get? "transcribe_media").map (·.options) = some .longRunning ∧
        (bindings.get? "publish").map (·.options) = some hurried ∧
        ∀ name, (again.get? name).map (·.options) = (bindings.get? name).map (·.options) := by
  intro catalog hurried groups other
  have hsound : groups.Sound := ⟨by decide, by decide +kernel, by decide⟩
  have hvalid : other.validate = .ok () := by decide +kernel
  have hother : groups.Rearranged catalog other := by
    refine ⟨groups.reverse, (List.reverse_perm _).symm, .cons ?_ (.cons ?_ .nil)⟩
    · exact ⟨rfl, rfl, List.Sublist.refl _, by decide⟩
    · exact ⟨rfl, rfl, by decide, by decide⟩
  obtain ⟨bindings, hbindings, hperm, horder, hall, hmoved⟩ :=
    (ofGroups_assignment catalog (by decide) "ingest").1 groups hsound
  obtain ⟨again, hagain, hsame⟩ := hmoved other hvalid hother
  refine ⟨hsound, hother, bindings, again, hbindings, hagain, horder.trans (by decide), ?_, ?_,
    hsame⟩
  · have hbound : "transcribe_media" ∈ bindings.names := hperm.mem_iff.mpr (by decide)
    obtain ⟨b, hb, hname, hget⟩ := exists_get?_of_mem hbound
    rw [hget, Option.map_some, ((hall b hb).2.1 1 _ rfl (by rw [hname]; decide)).1]
  · have hbound : "publish" ∈ bindings.names := hperm.mem_iff.mpr (by decide)
    obtain ⟨b, hb, hname, hget⟩ := exists_get?_of_mem hbound
    obtain ⟨e, he, hdefault, hoptions⟩ := (hall b hb).2.2 (by rw [hname]; decide)
    -- The other group has another name.
    obtain rfl | rfl : e = ("default", ⟨hurried, ["extract_text"]⟩) ∨
        e = ("long_running", ⟨.longRunning, ["transcode", "transcribe_media"]⟩) := by
      simpa [groups] using he
    · rw [hget, Option.map_some, ← hoptions]
    · exact absurd hdefault (by decide)

end Bindings

end ActivityFlow
