import ActivityFlow.Proofs.Json.WellFormed
import ActivityFlow.Proofs.Sources.Fetch
import ActivityFlow.Proofs.Sources.Noting
import Mathlib.Order.Bounds.Basic

/-!
# Interaction runs

Interaction runs are asked for by their identifiers and by nothing else. A request that asks in
another way is declined before the store is touched; any other one becomes one retrieval for each
identifier within its limit, all side by side.
-/
namespace ActivityFlow

/-! ## Filters -/

/-- What renaming the identifier makes of a filter. -/
theorem normalizeIdFilter_cases (filter : Fields) :
    (Fields.get? filter genericIdKey = none ∧ normalizeIdFilter filter = filter) ∨
      ∃ id, Fields.get? filter genericIdKey = some id ∧
        ((∃ explicit, Fields.get? filter storeIdKey = some explicit ∧
            normalizeIdFilter filter = Fields.erase filter genericIdKey) ∨
          Fields.get? filter storeIdKey = none ∧
            normalizeIdFilter filter =
              Fields.insert (Fields.erase filter genericIdKey) storeIdKey id) := by
  have hrest : Fields.get? (Fields.erase filter genericIdKey) storeIdKey =
      Fields.get? filter storeIdKey := Fields.get?_erase_of_ne filter (by decide)
  unfold normalizeIdFilter
  cases hid : Fields.get? filter genericIdKey with
  | none => exact .inl ⟨rfl, rfl⟩
  | some id =>
    refine .inr ⟨id, rfl, ?_⟩
    cases hexplicit : Fields.get? filter storeIdKey with
    | some explicit =>
      refine .inl ⟨explicit, rfl, if_pos ?_⟩
      rw [Fields.contains, hrest, hexplicit]
      rfl
    | none =>
      refine .inr ⟨rfl, if_neg ?_⟩
      rw [Fields.contains, hrest, hexplicit]
      decide

/-- What is found in a filter whose identifier was renamed. -/
theorem get?_normalizeIdFilter (filter : Fields) (key : String) :
    Fields.get? (normalizeIdFilter filter) key =
      if key = genericIdKey then none
      else if key = storeIdKey then
        (Fields.get? filter storeIdKey).or (Fields.get? filter genericIdKey)
      else Fields.get? filter key := by
  have hne : storeIdKey ≠ genericIdKey := by decide
  by_cases hgeneric : key = genericIdKey
  · subst hgeneric
    rw [if_pos rfl]
    rcases normalizeIdFilter_cases filter with ⟨hnone, heq⟩ | ⟨id, -, ⟨_, -, heq⟩ | ⟨-, heq⟩⟩
    · rw [heq, hnone]
    · rw [heq, Fields.get?_erase_self]
    · rw [heq, Fields.get?_insert_of_ne _ _ hne, Fields.get?_erase_self]
  have herase := Fields.get?_erase_of_ne filter (Ne.symm hgeneric)
  rw [if_neg hgeneric]
  by_cases hstore : key = storeIdKey
  · subst hstore
    rw [if_pos rfl]
    rcases normalizeIdFilter_cases filter with
      ⟨hnone, heq⟩ | ⟨id, hid, ⟨explicit, hexplicit, heq⟩ | ⟨hnone, heq⟩⟩
    · rw [heq, hnone, Option.or_none]
    · rw [heq, herase, hexplicit, Option.some_or]
    · rw [heq, Fields.get?_insert_self, hnone, hid, Option.none_or]
  · rw [if_neg hstore]
    rcases normalizeIdFilter_cases filter with ⟨-, heq⟩ | ⟨id, -, ⟨_, -, heq⟩ | ⟨-, heq⟩⟩
    · rw [heq]
    · rw [heq, herase]
    · rw [heq, Fields.get?_insert_of_ne _ _ (Ne.symm hstore), herase]

theorem ascending_normalizeIdFilter {filter : Fields} (h : Fields.Ascending filter) :
    Fields.Ascending (normalizeIdFilter filter) := by
  rcases normalizeIdFilter_cases filter with ⟨-, heq⟩ | ⟨id, -, ⟨_, -, heq⟩ | ⟨-, heq⟩⟩
  · rw [heq]
    exact h
  · rw [heq]
    exact h.erase genericIdKey
  · rw [heq]
    exact (h.erase genericIdKey).insert storeIdKey id

/-- The first key of an object that passes a test is the least one. -/
theorem Fields.Ascending.isLeast_of_find? {fields : Fields} (h : Fields.Ascending fields)
    {test : String → Bool} {e : String × Json} (hfind : fields.find? (fun e => test e.1) = some e) :
    IsLeast {key | test key = true ∧ key ∈ fields.map Prod.fst} e.1 := by
  obtain ⟨htest, before, after, rfl, hbefore⟩ := List.find?_eq_some_iff_append.mp hfind
  refine ⟨⟨htest, List.mem_map_of_mem (List.mem_append_right _ (List.mem_cons_self ..))⟩, ?_⟩
  rintro key ⟨hkey, hmem⟩
  rw [List.map_append, List.mem_append, List.map_cons, List.mem_cons] at hmem
  rcases hmem with hmem | rfl | hmem
  · obtain ⟨other, hother, rfl⟩ := List.mem_map.mp hmem
    have hfails := hbefore other hother
    rw [hkey] at hfails
    cases hfails
  · exact le_rfl
  · obtain ⟨other, hother, rfl⟩ := List.mem_map.mp hmem
    have hrest := h.sublist (List.sublist_append_right before (e :: after))
    exact le_of_lt ((ascending_cons.mp hrest).1 other hother)

/-- A value stands for identifiers: a text for itself, and an array of nothing but texts for
them. -/
inductive Identifies : Json → List String → Prop
  | one (id : String) : Identifies (.text id) [id]
  | many (ids : List String) : Identifies (.array (ids.map .text)) ids

theorem mapM_text?_eq_some_iff {items : List Json} {ids : List String} :
    items.mapM Json.text? = some ids ↔ items = ids.map .text := by
  constructor
  · intro h
    induction items generalizing ids with
    | nil =>
      obtain rfl : [] = ids := Option.some.inj h
      rfl
    | cons item rest ih =>
      rw [List.mapM_cons] at h
      obtain ⟨id, hid, h⟩ := Option.bind_eq_some_iff.mp h
      obtain ⟨others, hothers, h⟩ := Option.bind_eq_some_iff.mp h
      obtain rfl : id :: others = ids := Option.some.inj h
      obtain rfl : item = .text id := by
        cases item <;> cases hid
        rfl
      rw [ih hothers, List.map_cons]
  · rintro rfl
    induction ids with
    | nil => rfl
    | cons id rest ih =>
      rw [List.map_cons, List.mapM_cons, ih]
      rfl

theorem idFilterValues_eq_some_iff {filter : Fields} {ids : List String} :
    idFilterValues filter = some ids ↔
      ∃ value, Fields.get? filter storeIdKey = some value ∧ Identifies value ids := by
  unfold idFilterValues
  constructor
  · intro h
    split at h
    · next id hget =>
      obtain rfl := Option.some.inj h
      exact ⟨_, hget, .one id⟩
    · next items hget =>
      obtain rfl := mapM_text?_eq_some_iff.mp h
      exact ⟨_, hget, .many ids⟩
    · cases h
  · rintro ⟨value, hget, hids⟩
    rw [hget]
    cases hids with
    | one id => rfl
    | many ids => exact mapM_text?_eq_some_iff.mpr rfl

/-! ## Requests -/

namespace Source

variable {r : RecordRequest}

/-- The complaint about a parameter of a request for interaction runs. -/
def invalidParam (param reason : String) : Diagnosis where
  kind := .activityParamInvalid
  text := "invalid parameter '" ++ param ++ "' for activity 'interaction_run': " ++ reason
  retryable := false
  details := [("activity", .text "interaction_run"), ("param", .text param),
    ("reason", .text reason)]

/-- The complaint about a parameter that a request for interaction runs does not have. -/
def missingParam (param : String) : Diagnosis where
  kind := .activityParamNotFound
  text := "missing required parameter '" ++ param ++ "' for activity 'interaction_run'"
  retryable := false
  details := [("activity", .text "interaction_run"), ("param", .text param)]

theorem activityParamInvalid_eq (param reason : String) :
    Diagnosis.activityParamInvalid runs.id param reason = invalidParam param reason := by
  have hdetails (a p r : Json) : Fields.insert (Fields.insert [("activity", a)] "param" p)
      "reason" r = [("activity", a), ("param", p), ("reason", r)] := rfl
  simp [Diagnosis.activityParamInvalid, invalidParam, Diagnosis.withDetail, Diagnosis.of,
    Fields.insert.eq_1, hdetails, id, String.append_assoc, FailureKind.isRetryable]

theorem activityParamNotFound_eq (param : String) :
    Diagnosis.activityParamNotFound runs.id param = missingParam param := by
  have hdetails (a p : Json) : Fields.insert [("activity", a)] "param" p =
      [("activity", a), ("param", p)] := rfl
  simp [Diagnosis.activityParamNotFound, missingParam, Diagnosis.withDetail, Diagnosis.of,
    Fields.insert.eq_1, hdetails, id, String.append_assoc, FailureKind.isRetryable]

theorem requestedIds_of_other {key : String} {value : Json}
    (h : (normalizeIdFilter r.filter).find? (fun e => e.1 != storeIdKey) = some (key, value)) :
    requestedIds r = .error (invalidParam "query"
      ("unsupported filter '" ++ key ++ "'; only id lookups are allowed")) := by
  rw [← activityParamInvalid_eq]
  simp only [requestedIds, h, unsupportedFilter]

section identifierOnly

variable (honly : ∀ key ∈ (normalizeIdFilter r.filter).map Prod.fst, key = storeIdKey)
include honly

theorem find?_eq_none_of_only :
    (normalizeIdFilter r.filter).find? (fun e => e.1 != storeIdKey) = none := by
  rw [List.find?_eq_none]
  intro e he
  simpa using honly e.1 (List.mem_map_of_mem he)

theorem requestedIds_of_absent
    (h : Fields.get? (normalizeIdFilter r.filter) storeIdKey = none) :
    requestedIds r = .error (missingParam "id") := by
  have hids : idFilterValues (normalizeIdFilter r.filter) = none := by
    rw [idFilterValues, h]
  have hcontains : Fields.contains (normalizeIdFilter r.filter) storeIdKey = false := by
    rw [Fields.contains, h]
    rfl
  rw [← activityParamNotFound_eq]
  simp only [requestedIds, find?_eq_none_of_only honly, hids, hcontains, Bool.false_eq_true,
    if_false, genericIdKey]

theorem requestedIds_of_unreadable {value : Json}
    (h : Fields.get? (normalizeIdFilter r.filter) storeIdKey = some value)
    (hids : ∀ ids, ¬ Identifies value ids) :
    requestedIds r =
      .error (invalidParam "id" "expected a string or an array of strings") := by
  have hids : idFilterValues (normalizeIdFilter r.filter) = none := by
    refine Option.eq_none_iff_forall_ne_some.mpr fun ids hsome => ?_
    obtain ⟨other, hother, hidentifies⟩ := idFilterValues_eq_some_iff.mp hsome
    obtain rfl := Option.some.inj (h.symm.trans hother)
    exact hids ids hidentifies
  have hcontains : Fields.contains (normalizeIdFilter r.filter) storeIdKey = true := by
    rw [Fields.contains, h]
    rfl
  rw [← activityParamInvalid_eq]
  simp only [requestedIds, find?_eq_none_of_only honly, hids, hcontains, if_true, genericIdKey]

theorem requestedIds_of_identifies {value : Json} {ids : List String}
    (h : Fields.get? (normalizeIdFilter r.filter) storeIdKey = some value)
    (hids : Identifies value ids) :
    requestedIds r = .ok (r.limit.elim ids fun limit => ids.take limit) := by
  have hids : idFilterValues (normalizeIdFilter r.filter) = some ids :=
    idFilterValues_eq_some_iff.mpr ⟨value, h, hids⟩
  simp only [requestedIds, find?_eq_none_of_only honly, hids]
  cases r.limit with
  | none => rfl
  | some limit => rfl

end identifierOnly

/-- A source declines a request: whatever the store, nothing is done, and the diagnosis says which
kind of mistake it was and in which parameter. -/
structure Declines (source : Source) (r : RecordRequest) (diagnosis : Diagnosis)
    (kind : FailureKind) (param : String) : Prop where
  fetch_eq : ∀ (ω : Type) (store : Store ω),
    source.fetch store r = .done (.error (.diagnosed diagnosis))
  blames : diagnosis.Blames kind param

theorem declines_runs {diagnosis : Diagnosis} {kind : FailureKind} {param : String}
    (h : requestedIds r = .error diagnosis) (hblames : diagnosis.Blames kind param) :
    runs.Declines r diagnosis kind param := by
  refine ⟨fun ω store => ?_, hblames⟩
  simp only [fetch, h]

theorem fetch_runs_of_ok {ω : Type} {ids : List String} (h : requestedIds r = .ok ids)
    (store : Store ω) : runs.fetch store r =
      FanOut.allOrFirstFailure (ids.map fun id => store.retrieve runsCollection id r.select) := by
  simp only [fetch, h]

/-- A request for interaction runs is declined for the least key of its filter that is not the
identifier, then for a missing identifier, then for one that is neither a text nor an array of
nothing but texts. Any other request depends on nothing but what the store answers when it is
asked, by their identifiers, for as many runs as the limit allows. Each of these is retrieved once,
also if its identifier is repeated, and the records come in the order of the identifiers, unless
a retrieval fails. -/
theorem fetch_runs (r : RecordRequest) (h : Fields.Ascending r.filter) :
    let filter := normalizeIdFilter r.filter
    let others := {key | key ≠ "_id" ∧ key ∈ filter.map Prod.fst}
    (Fields.Ascending filter ∧ ∀ key, Fields.get? filter key =
      if key = "id" then none
      else if key = "_id" then (Fields.get? r.filter "_id").or (Fields.get? r.filter "id")
      else Fields.get? r.filter key) ∧
    (others.Nonempty → ∃ key, IsLeast others key ∧
      runs.Declines r (invalidParam "query"
        ("unsupported filter '" ++ key ++ "'; only id lookups are allowed"))
        .activityParamInvalid "query") ∧
    (others = ∅ → Fields.get? filter "_id" = none →
      runs.Declines r (missingParam "id") .activityParamNotFound "id") ∧
    (others = ∅ → ∀ value, Fields.get? filter "_id" = some value →
      (∀ ids, ¬ Identifies value ids) →
      runs.Declines r (invalidParam "id" "expected a string or an array of strings")
        .activityParamInvalid "id") ∧
    (others = ∅ → ∀ value ids, Fields.get? filter "_id" = some value → Identifies value ids →
      let asked := r.limit.elim ids fun limit => ids.take limit
      ∀ (ω : Type) (store : Store ω),
        (∀ other : Store ω, (∀ id ∈ asked, other.retrieve "runs" id r.select =
          store.retrieve "runs" id r.select) → runs.fetch other r = runs.fetch store r) ∧
        ∀ clock world,
          let finish := (runs.fetch store.noting r).run clock (world, [])
          ∃ outcomes, EachDone (asked.map fun id => .retrieve "runs" id r.select)
            finish.state.2 outcomes finish.value) := by
  intro filter others
  have hfilter := ascending_normalizeIdFilter h
  have honly (hothers : others = ∅) : ∀ key ∈ filter.map Prod.fst, key = storeIdKey := by
    intro key hkey
    by_contra hne
    exact (Set.eq_empty_iff_forall_notMem.mp hothers) key ⟨hne, hkey⟩
  refine ⟨⟨hfilter, get?_normalizeIdFilter r.filter⟩, ?_, ?_, ?_, ?_⟩
  · rintro ⟨key, hne, hkey⟩
    obtain ⟨e, he, rfl⟩ := List.mem_map.mp hkey
    cases hfind : filter.find? fun e => e.1 != storeIdKey with
    | none =>
      have hsame := List.find?_eq_none.mp hfind e he
      exact absurd (by simpa [storeIdKey] using hsame) hne
    | some first =>
      have hleast :
          IsLeast {key | (key != "_id") = true ∧ key ∈ filter.map Prod.fst} first.1 :=
        hfilter.isLeast_of_find? hfind
      simp only [bne_iff_ne] at hleast
      exact ⟨first.1, hleast, declines_runs (requestedIds_of_other hfind) ⟨rfl, rfl⟩⟩
  · exact fun hothers hid =>
      declines_runs (requestedIds_of_absent (honly hothers) hid) ⟨rfl, rfl⟩
  · exact fun hothers value hid hids =>
      declines_runs (requestedIds_of_unreadable (honly hothers) hid hids) ⟨rfl, rfl⟩
  · intro hothers value ids hid hids asked ω store
    have hrequested : requestedIds r = .ok asked :=
      requestedIds_of_identifies (honly hothers) hid hids
    constructor
    · intro other hsame
      rw [fetch_runs_of_ok hrequested, fetch_runs_of_ok hrequested]
      exact congrArg FanOut.allOrFirstFailure (List.map_congr_left hsame)
    · intro clock world
      rw [fetch_runs_of_ok hrequested]
      exact run_retrieveEach store runsCollection r.select asked clock world

/-- Of four identifiers, one of them repeated, a limit of three leaves the first three, and each
is retrieved. Under another limit and with a second key the request is declined for this key. -/
theorem fetch_runs_repeated :
    let r : RecordRequest := ⟨"interaction_run",
      [("id", .array [.text "b", .text "a", .text "b", .text "c"])], some 3, none⟩
    let store : Store Nat :=
      ⟨fun _ _ => .done (.ok []), fun _ id _ => Routine.transact fun _ made =>
        (.ok (.array [.text id, .int made]), made + 1)⟩
    let finish := (runs.fetch store.noting r).run ⟨0, 0⟩ (0, [])
    let filtered : RecordRequest :=
      ⟨"interaction_run", [("_id", .text "b"), ("status", .null)], some 0, none⟩
    (Fields.Ascending r.filter ∧ ∃ outcomes, EachDone [.retrieve "runs" "b" none,
      .retrieve "runs" "a" none, .retrieve "runs" "b" none] finish.state.2 outcomes finish.value) ∧
    finish.value = .ok [.array [.text "b", .int 0], .array [.text "a", .int 1],
      .array [.text "b", .int 2]] ∧
    Fields.Ascending filtered.filter ∧
      runs.Declines filtered
        ⟨.activityParamInvalid, "invalid parameter 'query' for activity 'interaction_run': " ++
          "unsupported filter 'status'; only id lookups are allowed", false,
          [("activity", .text "interaction_run"), ("param", .text "query"),
            ("reason", .text "unsupported filter 'status'; only id lookups are allowed")]⟩
        .activityParamInvalid "query" := by
  intro r store finish filtered
  have hr : Fields.Ascending r.filter := List.pairwise_singleton _ _
  have hfiltered : Fields.Ascending filtered.filter := by
    show (["_id", "status"] : List String).Pairwise (· < ·)
    decide
  refine ⟨⟨hr, ?_⟩, rfl, hfiltered, ?_⟩
  · obtain ⟨-, -, -, -, hfetch⟩ := fetch_runs r hr
    have hids : Identifies (.array [.text "b", .text "a", .text "b", .text "c"])
        ["b", "a", "b", "c"] := .many ["b", "a", "b", "c"]
    have hnone :
        {key | key ≠ storeIdKey ∧ key ∈ (normalizeIdFilter r.filter).map Prod.fst} = ∅ := by
      refine Set.eq_empty_iff_forall_notMem.mpr ?_
      rintro key ⟨hne, hkey⟩
      exact hne (List.mem_singleton.mp hkey)
    exact (hfetch hnone _ ["b", "a", "b", "c"] rfl hids Nat store).2 ⟨0, 0⟩ 0
  · obtain ⟨-, hdeclines, -⟩ := fetch_runs filtered hfiltered
    obtain ⟨key, ⟨⟨hne, hkey⟩, -⟩, hdeclined⟩ := hdeclines ⟨"status", by decide⟩
    obtain rfl : key = "status" :=
      List.mem_singleton.mp ((List.mem_cons.mp hkey).resolve_left hne)
    simpa [invalidParam] using hdeclined

end Source

end ActivityFlow
