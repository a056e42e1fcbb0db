import ActivityFlow.Json.Basic

/-!
# Lookup in objects

Objects are compared by what is found under their keys. Laying one object over another
gives the entries of the upper one where it has any, and those of the lower one elsewhere.
An object that includes the entries of another can be read in its place.
-/
namespace ActivityFlow.Fields

theorem get?_insert (fields : Fields) (key : String) (value : Json) (other : String) :
    get? (insert fields key value) other =
      if key = other then some value else get? fields other := by
  by_cases h : key = other
  · subst h
    rw [get?_insert_self, if_pos rfl]
  · rw [get?_insert_of_ne fields value h, if_neg h]

theorem get?_eq_none_of_notMem {fields : Fields} {key : String}
    (h : key ∉ fields.map Prod.fst) : get? fields key = none := by
  induction fields with
  | nil => rfl
  | cons e rest ih =>
    simp only [List.map_cons, List.mem_cons, not_or] at h
    obtain ⟨hne, hrest⟩ := h
    rw [get?_cons, if_neg (Ne.symm hne), ih hrest]

theorem get?_append_cons {before : Fields} {key : String} (h : key ∉ before.map Prod.fst)
    (value : Json) (after : Fields) : get? (before ++ (key, value) :: after) key = some value := by
  induction before with
  | nil => rw [List.nil_append, get?_cons, if_pos rfl]
  | cons first rest ih =>
    obtain ⟨k, v⟩ := first
    rw [List.map_cons, List.mem_cons, not_or] at h
    obtain ⟨hfirst, hrest⟩ := h
    rw [List.cons_append, get?_cons, if_neg (Ne.symm hfirst), ih hrest]

/-- Under each of the names the same is found in both objects. -/
def AgreeOn (names : List String) (fields others : Fields) : Prop :=
  ∀ name ∈ names, get? fields name = get? others name

theorem agreeOn_insert {names : List String} {key : String} (h : key ∉ names) (fields : Fields)
    (value : Json) : AgreeOn names (insert fields key value) fields := by
  intro name hname
  refine get?_insert_of_ne fields value ?_
  rintro rfl
  exact h hname

theorem AgreeOn.mono {names part : List String} {fields others : Fields}
    (h : AgreeOn names fields others) (hpart : part ⊆ names) : AgreeOn part fields others :=
  fun name hname => h name (hpart hname)

/-- Of two objects laid over each other the upper one wins. -/
theorem get?_insertAll (fields pairs : Fields) (h : (pairs.map Prod.fst).Nodup) (key : String) :
    get? (insertAll fields pairs) key = (get? pairs key).or (get? fields key) := by
  induction pairs generalizing fields with
  | nil => rfl
  | cons e rest ih =>
    obtain ⟨name, value⟩ := e
    simp only [List.map_cons, List.nodup_cons] at h
    obtain ⟨hname, hrest⟩ := h
    have hstep : insertAll fields ((name, value) :: rest) =
        insertAll (insert fields name value) rest := rfl
    rw [hstep, ih (insert fields name value) hrest, get?_insert, get?_cons]
    by_cases hk : name = key
    · subst hk
      rw [if_pos rfl, if_pos rfl, get?_eq_none_of_notMem hname]
      rfl
    · rw [if_neg hk, if_neg hk]

/-- The entries contain all of the given ones. -/
def Includes (fields part : Fields) : Prop := ∀ e ∈ part, get? fields e.1 = some e.2

theorem Includes.get? {fields part : Fields} (h : Includes fields part) {key : String}
    {value : Json} (hmem : (key, value) ∈ part) : Fields.get? fields key = some value :=
  h (key, value) hmem

theorem includes_self {fields : Fields} (h : (fields.map Prod.fst).Nodup) :
    Includes fields fields := by
  induction fields with
  | nil =>
    intro e he
    cases he
  | cons first rest ih =>
    obtain ⟨k, v⟩ := first
    rw [List.map_cons, List.nodup_cons] at h
    obtain ⟨hfirst, hrest⟩ := h
    intro e he
    rcases List.mem_cons.mp he with rfl | hmem
    · rw [get?_cons, if_pos rfl]
    · have hne : k ≠ e.1 := by
        rintro rfl
        exact hfirst (List.mem_map.mpr ⟨e, hmem, rfl⟩)
      rw [get?_cons, if_neg hne, ih hrest e hmem]

theorem Includes.insert {fields part : Fields} (h : Includes fields part) {key : String}
    (hkey : key ∉ part.map Prod.fst) (value : Json) :
    Includes (Fields.insert fields key value) part := by
  intro e he
  have hne : key ≠ e.1 := by
    rintro rfl
    exact hkey (List.mem_map_of_mem he)
  rw [get?_insert_of_ne fields value hne, h e he]

theorem includes_insertAll (fields : Fields) {pairs : Fields}
    (h : (pairs.map Prod.fst).Nodup) : Includes (insertAll fields pairs) pairs := by
  intro e he
  rw [get?_insertAll fields pairs h, includes_self h e he, Option.some_or]

/-- What lies beside the entries that are laid over an object stays. -/
theorem Includes.insertAll {fields part pairs : Fields} (h : Includes fields part)
    (hpairs : (pairs.map Prod.fst).Nodup) (hother : ∀ e ∈ part, e.1 ∉ pairs.map Prod.fst) :
    Includes (Fields.insertAll fields pairs) part := by
  intro e he
  rw [get?_insertAll fields pairs hpairs, get?_eq_none_of_notMem (hother e he), Option.none_or,
    h e he]

end ActivityFlow.Fields
