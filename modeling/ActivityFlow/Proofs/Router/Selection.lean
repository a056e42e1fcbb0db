import ActivityFlow.Router
import Mathlib.Order.Bounds.Basic

/-!
# What a router picks

A router is built exactly from routes of which the last one admits everything, so the search for
the first route that admits an attribute always finds one. What is picked depends on that route
alone: routes behind one that admits everything never matter, and two neighbours may change
places unless both admit the attribute.
-/
namespace ActivityFlow

namespace Guard

/-- A pattern admits an attribute exactly if the attribute is present and the pattern occurs in
it. -/
theorem admits_pattern_iff (p : Pattern) (label : Option String) :
    (pattern p).admits label = true ↔ ∃ text, label = some text ∧ p.occursIn text = true := by
  cases label <;> simp [admits]

end Guard

def Route.admits (label : Option String) (route : Route) : Bool := route.guard.admits label

namespace Router

/-! ## Routers and their routes -/

theorem build_eq_ok_iff {name : String} {routes : List Route} {r : Router} :
    build name routes = .ok r ↔ r.name = name ∧ r.routes = routes ∧
      ∃ h : routes ≠ [], (routes.getLast h).guard = .any := by
  obtain ⟨own, others, hothers⟩ := r
  by_cases hne : routes = []
  · simp [build, hne]
  · cases hlast : (routes.getLast hne).guard with
    | any => simp [build, hne, hlast, eq_comm]
    | pattern p => simp [build, hne, hlast]

/-- Routes make up a router exactly if the last one admits everything. -/
theorem exists_build_iff {name : String} {routes : List Route} :
    (∃ r, build name routes = .ok r) ↔ ∃ h : routes ≠ [], (routes.getLast h).guard = .any := by
  simp only [build_eq_ok_iff]
  constructor
  · rintro ⟨r, -, -, hlast⟩
    exact hlast
  · rintro ⟨hne, hany⟩
    exact ⟨⟨name, routes, hne⟩, rfl, rfl, hne, hany⟩

theorem build_eq_error {name : String} {routes : List Route}
    (h : ¬ ∃ r, build name routes = .ok r) :
    build name routes = .error (.missingFallback name) := by
  rw [exists_build_iff] at h
  by_cases hne : routes = []
  · rw [build, dif_pos hne]
  · rw [build, dif_neg hne]
    cases hlast : (routes.getLast hne).guard with
    | any => exact absurd ⟨hne, hlast⟩ h
    | pattern p => rfl

/-! ## Names -/

theorem mem_addNames {name : String} (known names : List String) :
    name ∈ addNames known names ↔ name ∈ known ∨ name ∈ names := by
  induction names generalizing known with
  | nil => simp [addNames]
  | cons first rest ih =>
    rw [addNames, List.foldl_cons, ← addNames, ih]
    by_cases hknown : first ∈ known
    · rw [if_pos (by simpa using hknown), List.mem_cons]
      constructor
      · exact Or.imp_right .inr
      · rintro (h | rfl | h)
        exacts [.inl h, .inl hknown, .inr h]
    · rw [if_neg (by simpa using hknown), List.mem_append, List.mem_singleton, List.mem_cons,
        or_assoc]

theorem mem_activityNames_iff {r : Router} {name : String} :
    name ∈ r.activityNames ↔ ∃ route ∈ r.routes, name ∈ route.destination.target.names := by
  simp [activityNames, mem_addNames]

/-! ## The search -/

/-- The places of the routes that admit an attribute. -/
def admitting (routes : List Route) (label : Option String) : Set Nat :=
  {place | ∃ route, routes[place]? = some route ∧ route.guard.admits label = true}

theorem isLeast_admitting {routes : List Route} {label : Option String} {place : Nat}
    (h : routes.findIdx? (Route.admits label) = some place) :
    IsLeast (admitting routes label) place := by
  obtain ⟨hlt, hadmits, hbefore⟩ := List.findIdx?_eq_some_iff_getElem.mp h
  refine ⟨⟨routes[place], List.getElem?_eq_getElem hlt, hadmits⟩, ?_⟩
  rintro other ⟨route, hroute, hother⟩
  obtain ⟨hin, rfl⟩ := List.getElem?_eq_some_iff.mp hroute
  by_contra hlt
  exact hbefore other (Nat.lt_of_not_le hlt) hother

section Built

variable {name : String} {routes other : List Route} {r r' : Router}

/-- The search of a router that was built is never in vain: at the latest it stops at the last
route. -/
theorem search_eq_some (h : build name routes = .ok r) (label : Option String) :
    ∃ place route, r.search label = some (route, place) ∧
      routes.findIdx? (Route.admits label) = some place ∧ routes[place]? = some route := by
  obtain ⟨-, rfl, hne, hany⟩ := build_eq_ok_iff.mp h
  have hlast : Route.admits label (r.routes.getLast hne) = true := by
    rw [Route.admits, hany]
    rfl
  have hfound : (r.search label).isSome := by
    rw [search, List.find?_isSome]
    refine ⟨(r.routes.getLast hne, r.routes.length - 1), ?_, hlast⟩
    rw [List.mem_zipIdx_iff_getElem?, List.getLast_eq_getElem, List.getElem?_eq_getElem]
  obtain ⟨⟨route, place⟩, hsearch⟩ := Option.isSome_iff_exists.mp hfound
  refine ⟨place, route, hsearch, ?_, ?_⟩
  · rw [List.findIdx?_eq_fst_find?_zipIdx]
    exact congrArg (Option.map Prod.snd) hsearch
  · exact List.mem_zipIdx_iff_getElem?.mp (List.mem_of_find?_eq_some hsearch)

/-- What a router picks is what the first route amounts to that admits the attribute. -/
theorem select_eq (h : build name routes = .ok r) (label : Option String) (vars : Fields) :
    ∃ place route, routes.findIdx? (Route.admits label) = some place ∧
      routes[place]? = some route ∧ r.select label vars = arrive vars place route.destination := by
  obtain ⟨place, route, hsearch, hplace, hroute⟩ := search_eq_some h label
  exact ⟨place, route, hplace, hroute, by rw [select, hsearch, Option.getD_some]⟩

theorem activity_select_mem (h : build name routes = .ok r) (label : Option String)
    (vars : Fields) : (r.select label vars).activity ∈ r.activityNames := by
  obtain ⟨place, route, -, hroute, hselect⟩ := select_eq h label vars
  obtain ⟨-, rfl, -⟩ := build_eq_ok_iff.mp h
  rw [hselect, mem_activityNames_iff]
  exact ⟨route, List.mem_of_getElem? hroute, route.destination.target.choose_mem_names vars⟩

/-- Two routers pick the same if the search stops at the same place, where they have the same
route. -/
theorem select_eq_select (h : build name routes = .ok r) (h' : build name other = .ok r')
    {label : Option String}
    (hplace : routes.findIdx? (Route.admits label) = other.findIdx? (Route.admits label))
    (hroute : ∀ place, other.findIdx? (Route.admits label) = some place →
      routes[place]? = other[place]?) (vars : Fields) :
    r.select label vars = r'.select label vars := by
  obtain ⟨place, route, hfound, hget, hselect⟩ := select_eq h label vars
  obtain ⟨place', route', hfound', hget', hselect'⟩ := select_eq h' label vars
  rw [hplace, hfound', Option.some.injEq] at hfound
  subst hfound
  rw [hroute _ hfound', hget', Option.some.injEq] at hget
  rw [hselect, hselect', hget]

/-- Routes behind one that admits everything do not matter. -/
theorem select_append_any {front rest rest' : List Route} {d : Destination}
    (h : build name (front ++ ⟨.any, d⟩ :: rest) = .ok r)
    (h' : build name (front ++ ⟨.any, d⟩ :: rest') = .ok r') (label : Option String)
    (vars : Fields) : r.select label vars = r'.select label vars := by
  let last : Route := ⟨.any, d⟩
  have hlast : Route.admits label last = true := rfl
  have hplace : ∀ rest, (front ++ last :: rest).findIdx? (Route.admits label) =
      some ((front.findIdx? (Route.admits label)).getD front.length) := by
    intro rest
    rw [List.findIdx?_append, List.findIdx?_cons, if_pos hlast]
    cases front.findIdx? (Route.admits label) <;> simp
  refine select_eq_select h h' (by rw [hplace, hplace]) ?_ vars
  intro place hfound
  have hle : place ≤ front.length := by
    rw [hplace, Option.some.injEq] at hfound
    rw [← hfound]
    cases hfront : front.findIdx? (Route.admits label) with
    | none => exact Nat.le_refl _
    | some found => exact Nat.le_of_lt (List.findIdx?_eq_some_iff_getElem.mp hfront).1
  have hget : ∀ rest, (front ++ last :: rest)[place]? = (front ++ [last])[place]? := by
    intro rest
    rw [List.append_cons, List.getElem?_append_left (by simp; omega)]
  exact (hget rest).trans (hget rest').symm

/-- The activity and the parameters that are picked are those of the route that is found. -/
theorem exists_find?_eq (h : build name routes = .ok r) (label : Option String) (vars : Fields) :
    ∃ route, routes.find? (Route.admits label) = some route ∧
      (r.select label vars).activity = route.destination.target.choose vars ∧
      (r.select label vars).params = route.destination.params := by
  obtain ⟨place, route, hplace, hroute, hselect⟩ := select_eq h label vars
  obtain ⟨hlt, hadmits, hbefore⟩ := List.findIdx?_eq_some_iff_getElem.mp hplace
  rw [List.getElem?_eq_getElem hlt, Option.some.injEq] at hroute
  refine ⟨route, ?_, by rw [hselect]; rfl, by rw [hselect]; rfl⟩
  rw [List.find?_eq_some_iff_getElem]
  exact ⟨hroute ▸ hadmits, place, hlt, hroute, fun j hj => by simpa using hbefore j hj⟩

/-- Neighbours may change places unless both admit the attribute. -/
theorem select_swap {front back : List Route} {a b : Route}
    (h : build name (front ++ a :: b :: back) = .ok r)
    (h' : build name (front ++ b :: a :: back) = .ok r') {label : Option String}
    (hnot : ¬ (a.guard.admits label = true ∧ b.guard.admits label = true)) (vars : Fields) :
    (r.select label vars).activity = (r'.select label vars).activity ∧
      (r.select label vars).params = (r'.select label vars).params := by
  have hfind : (front ++ a :: b :: back).find? (Route.admits label) =
      (front ++ b :: a :: back).find? (Route.admits label) := by
    rw [List.find?_append, List.find?_append]
    congr 1
    cases ha : Route.admits label a with
    | false => simp [List.find?_cons, ha]
    | true =>
      have hb : Route.admits label b = false := Bool.eq_false_iff.mpr fun hb => hnot ⟨ha, hb⟩
      simp [ha, hb]
  obtain ⟨route, hroute, hactivity, hparams⟩ := exists_find?_eq h label vars
  obtain ⟨route', hroute', hactivity', hparams'⟩ := exists_find?_eq h' label vars
  rw [hfind, hroute', Option.some.injEq] at hroute
  rw [hactivity, hparams, hactivity', hparams', hroute]
  exact ⟨rfl, rfl⟩

end Built

/-- Routes make up a router exactly if there are some and the last one admits everything. Such a
router picks the first route that admits the attribute, for which the search never comes up empty:
its place, its parameters and the activity of its target, which is one of the router's. Routes may
be put or left out behind one that admits everything, and neighbours that do not both admit the
attribute may change places. -/
theorem select_first_admitting (name : String) (routes : List Route) :
    ((∀ label, Guard.any.admits label = true) ∧ ∀ p label,
      (Guard.pattern p).admits label = true ↔ ∃ text, label = some text ∧ p.occursIn text = true) ∧
    (((∃ r, build name routes = .ok r) ↔ ∃ h : routes ≠ [], (routes.getLast h).guard = .any) ∧
      ((¬ ∃ r, build name routes = .ok r) →
        build name routes = .error (.missingFallback name))) ∧
    (∀ r, build name routes = .ok r → ∀ label vars,
      let picked := r.select label vars
      (r.search label).isSome ∧ IsLeast (admitting routes label) picked.index ∧
        routes.findIdx? (Route.admits label) = some picked.index ∧
        (∃ route, routes[picked.index]? = some route ∧
          picked.activity = route.destination.target.choose vars ∧
          picked.params = route.destination.params) ∧
        picked.activity ∈ r.activityNames) ∧
    (∀ front d rest rest' r r', routes = front ++ ⟨.any, d⟩ :: rest → build name routes = .ok r →
      build name (front ++ ⟨.any, d⟩ :: rest') = .ok r' →
      ∀ label vars, r.select label vars = r'.select label vars) ∧
    (∀ front a b back r r', routes = front ++ a :: b :: back → build name routes = .ok r →
      build name (front ++ b :: a :: back) = .ok r' → ∀ label vars,
      ¬ (a.guard.admits label = true ∧ b.guard.admits label = true) →
        (r.select label vars).activity = (r'.select label vars).activity ∧
          (r.select label vars).params = (r'.select label vars).params) := by
  refine ⟨⟨fun _ => rfl, Guard.admits_pattern_iff⟩, ⟨exists_build_iff, build_eq_error⟩, ?_, ?_, ?_⟩
  · intro r h label vars
    obtain ⟨place, route, hplace, hroute, hselect⟩ := select_eq h label vars
    have hactivity := activity_select_mem h label vars
    obtain ⟨_, _, hsearch, -⟩ := search_eq_some h label
    rw [hselect] at hactivity ⊢
    exact ⟨by rw [hsearch, Option.isSome_some], isLeast_admitting hplace, hplace,
      ⟨route, hroute, rfl, rfl⟩, hactivity⟩
  · rintro front d rest rest' r r' rfl h h' label vars
    exact select_append_any h h' label vars
  · rintro front a b back r r' rfl h h' label vars hnot
    exact select_swap h h' hnot vars

/-- Two patterns of which the second one occurs in every text. Changing their places matters to an
attribute in which both occur, and to no other. -/
theorem select_first_admitting_overlap :
    let narrow : Route := ⟨.pattern (.char (.single 'p')), ⟨.fixed "convert", []⟩⟩
    let broad : Route := ⟨.pattern .empty,
      ⟨.switch "use_vision" "look" "read", [("ocr", .bool false)]⟩⟩
    let last : Route := ⟨.any, ⟨.fixed "extract", []⟩⟩
    let routes := [narrow, broad, last]
    let vars : Fields := [("use_vision", .bool true)]
    ∃ r r', build "media" routes = .ok r ∧ build "media" [broad, narrow, last] = .ok r' ∧
      IsLeast (admitting routes (some "text")) 1 ∧ IsLeast (admitting routes none) 2 ∧
      (r.select (some "text") vars).activity = "look" ∧
      ¬ (narrow.guard.admits (some "text") = true ∧ broad.guard.admits (some "text") = true) ∧
      (r.select (some "text") vars).activity = (r'.select (some "text") vars).activity ∧
      (r.select (some "pdf") vars).activity ≠ (r'.select (some "pdf") vars).activity := by
  intro narrow broad last routes vars
  obtain ⟨-, ⟨hbuild, -⟩, hselect, -, hswap⟩ := select_first_admitting "media" routes
  obtain ⟨r, hr⟩ := hbuild.mpr ⟨by simp [routes], rfl⟩
  have hr' : build "media" [broad, narrow, last] = .ok ⟨"media", [broad, narrow, last], by simp⟩ :=
    rfl
  obtain rfl : r = ⟨"media", routes, by simp [routes]⟩ := (Except.ok.inj hr).symm
  have hnot : ¬ (narrow.guard.admits (some "text") = true ∧
      broad.guard.admits (some "text") = true) := by decide
  refine ⟨_, _, hr, hr', (hselect _ hr (some "text") vars).2.1, (hselect _ hr none vars).2.1, ?_,
    hnot, (hswap [] narrow broad [last] _ _ rfl hr hr' (some "text") vars hnot).1, ?_⟩
  · decide
  · decide

end Router

end ActivityFlow
