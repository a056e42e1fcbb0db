import ActivityFlow.Words
import ActivityFlow.Proofs.Json.Fields
import Mathlib.Data.String.Basic

/-!
# Well-formed documents

In a document that can be written down the keys of every object ascend and whole numbers
are words of 64 bits, with a sign or without. Storing, removing and overlaying entries
preserve this, and removing a key undoes storing it where it was not present.
-/
namespace ActivityFlow

namespace Fields

variable {α : Type}

/-- Entries in ascending order of their keys, each key once. -/
def Ascending (entries : List (String × α)) : Prop := (entries.map Prod.fst).Pairwise (· < ·)

theorem ascending_cons {e : String × α} {rest : List (String × α)} :
    Ascending (e :: rest) ↔ (∀ x ∈ rest, e.1 < x.1) ∧ Ascending rest := by
  rw [Ascending, List.map_cons, List.pairwise_cons, Ascending]
  simp only [List.mem_map, forall_exists_index, and_imp, forall_apply_eq_imp_iff₂]

theorem Ascending.sublist {entries part : List (String × α)} (h : Ascending entries)
    (hsub : part.Sublist entries) : Ascending part :=
  List.Pairwise.sublist (hsub.map Prod.fst) h

theorem Ascending.nodup {entries : List (String × α)} (h : Ascending entries) :
    (entries.map Prod.fst).Nodup :=
  List.Pairwise.imp ne_of_lt h

theorem mem_insert {fields : Fields} {key : String} {value : Json} {e : String × Json}
    (h : e ∈ insert fields key value) : e = (key, value) ∨ e ∈ fields := by
  induction fields with
  | nil => simpa [insert] using h
  | cons first rest ih =>
    obtain ⟨k, v⟩ := first
    rw [insert] at h
    by_cases hk : k = key
    · rw [if_pos hk] at h
      rcases List.mem_cons.mp h with h | h
      · exact Or.inl h
      · exact Or.inr (List.mem_cons_of_mem _ h)
    rw [if_neg hk] at h
    by_cases hlt : key < k
    · rw [if_pos hlt] at h
      exact List.mem_cons.mp h
    rw [if_neg hlt] at h
    rcases List.mem_cons.mp h with h | h
    · exact Or.inr (h ▸ List.mem_cons_self ..)
    · exact (ih h).imp_right (List.mem_cons_of_mem _)

theorem Ascending.insert {fields : Fields} (h : Ascending fields) (key : String) (value : Json) :
    Ascending (Fields.insert fields key value) := by
  induction fields with
  | nil => simp [Fields.insert, Ascending]
  | cons first rest ih =>
    obtain ⟨k, v⟩ := first
    obtain ⟨hfirst, hrest⟩ := ascending_cons.mp h
    rw [Fields.insert]
    by_cases hk : k = key
    · subst hk
      rw [if_pos rfl]
      exact ascending_cons.mpr ⟨hfirst, hrest⟩
    rw [if_neg hk]
    by_cases hlt : key < k
    · rw [if_pos hlt]
      refine ascending_cons.mpr ⟨?_, h⟩
      intro x hx
      rcases List.mem_cons.mp hx with rfl | hx
      · exact hlt
      · exact lt_trans hlt (hfirst x hx)
    rw [if_neg hlt]
    refine ascending_cons.mpr ⟨?_, ih hrest⟩
    intro x hx
    rcases mem_insert hx with rfl | hx
    · exact lt_of_le_of_ne (not_lt.mp hlt) hk
    · exact hfirst x hx

/-- A key behind all others goes to the end. -/
theorem insert_eq_append {fields : Fields} {key : String} (h : ∀ e ∈ fields, e.1 < key)
    (value : Json) : insert fields key value = fields ++ [(key, value)] := by
  induction fields with
  | nil => rfl
  | cons first rest ih =>
    obtain ⟨k, v⟩ := first
    have hk : k < key := h (k, v) (List.mem_cons_self ..)
    rw [insert, if_neg (ne_of_lt hk), if_neg (lt_asymm hk),
      ih fun e he => h e (List.mem_cons_of_mem _ he)]
    rfl

theorem ofPairs_of_ascending {fields : Fields} (h : Ascending fields) :
    ofPairs fields = fields := by
  have hall : ∀ acc pairs : Fields, Ascending (acc ++ pairs) →
      insertAll acc pairs = acc ++ pairs := by
    intro acc pairs
    induction pairs generalizing acc with
    | nil =>
      intro _
      simp [insertAll]
    | cons e rest ih =>
      intro hasc
      have hbefore : ∀ x ∈ acc, x.1 < e.1 := by
        rw [Ascending, List.map_append, List.pairwise_append] at hasc
        intro x hx
        exact hasc.2.2 x.1 (List.mem_map_of_mem hx) e.1 (by simp)
      have hstep : insertAll acc (e :: rest) = insertAll (insert acc e.1 e.2) rest := rfl
      rw [hstep, insert_eq_append hbefore, ih]
      · simp
      · simpa using hasc
  exact hall [] fields h

theorem get?_erase_self (fields : Fields) (key : String) : get? (erase fields key) key = none := by
  refine get?_eq_none_of_notMem ?_
  intro hmem
  obtain ⟨e, he, rfl⟩ := List.mem_map.mp hmem
  simp [erase] at he

theorem get?_erase_of_ne (fields : Fields) {key name : String} (h : key ≠ name) :
    get? (erase fields key) name = get? fields name := by
  induction fields with
  | nil => rfl
  | cons first rest ih =>
    obtain ⟨k, v⟩ := first
    by_cases hk : k = key
    · have hstep : erase ((k, v) :: rest) key = erase rest key := by
        simp [erase, hk]
      rw [hstep, ih, get?_cons, if_neg (hk ▸ h)]
    · have hstep : erase ((k, v) :: rest) key = (k, v) :: erase rest key := by
        simp [erase, hk]
      rw [hstep, get?_cons, get?_cons, ih]

/-- Objects that agree still do so when both lose a key. -/
theorem AgreeOn.erase {names : List String} {fields others : Fields}
    (h : AgreeOn names fields others) (key : String) :
    AgreeOn names (Fields.erase fields key) (Fields.erase others key) := by
  intro name hname
  by_cases hkey : key = name
  · subst hkey
    rw [get?_erase_self, get?_erase_self]
  · rw [get?_erase_of_ne fields hkey, get?_erase_of_ne others hkey, h name hname]

theorem get?_erase_of_get?_eq_none {fields : Fields} {key : String} (h : get? fields key = none)
    (other : String) : get? (erase fields other) key = none := by
  induction fields with
  | nil => rfl
  | cons first rest ih =>
    obtain ⟨k, v⟩ := first
    rw [get?_cons] at h
    by_cases hk : k = key
    · rw [if_pos hk] at h
      cases h
    rw [if_neg hk] at h
    by_cases ho : k = other
    · simpa [erase, ho] using ih h
    · have hstep : erase ((k, v) :: rest) other = (k, v) :: erase rest other := by
        simp [erase, ho]
      rw [hstep, get?_cons, if_neg hk, ih h]

theorem erase_of_get?_eq_none {fields : Fields} {key : String} (h : get? fields key = none) :
    erase fields key = fields := by
  induction fields with
  | nil => rfl
  | cons first rest ih =>
    obtain ⟨k, v⟩ := first
    rw [get?_cons] at h
    by_cases hk : k = key
    · rw [if_pos hk] at h
      cases h
    rw [if_neg hk] at h
    have hstep : erase ((k, v) :: rest) key = (k, v) :: erase rest key := by
      simp [erase, hk]
    rw [hstep, ih h]

/-- Removing a key undoes storing it. -/
theorem erase_insert_self (fields : Fields) (key : String) (value : Json) :
    erase (insert fields key value) key = erase fields key := by
  induction fields with
  | nil => simp [insert, erase]
  | cons first rest ih =>
    obtain ⟨k, v⟩ := first
    rw [insert]
    by_cases hk : k = key
    · simp [erase, hk]
    rw [if_neg hk]
    by_cases hlt : key < k
    · rw [if_pos hlt]
      simp [erase]
    · rw [if_neg hlt]
      simpa [erase, hk] using ih

theorem erase_comm (fields : Fields) (key other : String) :
    erase (erase fields key) other = erase (erase fields other) key := by
  simp only [erase, List.filter_filter, Bool.and_comm]

theorem mem_of_get? {fields : Fields} {key : String} {value : Json}
    (h : get? fields key = some value) : (key, value) ∈ fields := by
  induction fields with
  | nil => cases h
  | cons first rest ih =>
    obtain ⟨k, v⟩ := first
    rw [get?_cons] at h
    by_cases hk : k = key
    · rw [if_pos hk] at h
      rw [hk, Option.some.inj h]
      exact List.mem_cons_self ..
    · rw [if_neg hk] at h
      exact List.mem_cons_of_mem _ (ih h)

theorem Ascending.mem_iff {fields : Fields} (h : Ascending fields) {key : String} {value : Json} :
    (key, value) ∈ fields ↔ get? fields key = some value :=
  ⟨fun hmem => includes_self h.nodup _ hmem, mem_of_get?⟩

/-- Ordered objects are the same if the same is found under every key. -/
theorem Ascending.ext {fields others : Fields} (h : Ascending fields) (hothers : Ascending others)
    (hget : ∀ key, get? fields key = get? others key) : fields = others := by
  have hmem : ∀ e, e ∈ fields ↔ e ∈ others := by
    rintro ⟨key, value⟩
    rw [h.mem_iff, hothers.mem_iff, hget]
  have hpairs := List.pairwise_map.mp h
  have hothers := List.pairwise_map.mp hothers
  have hne : ∀ e e' : String × Json, e.1 < e'.1 → e ≠ e' := by
    rintro e _ hlt rfl
    exact lt_irrefl _ hlt
  refine List.Perm.eq_of_pairwise ?_ hpairs hothers
    ((List.perm_ext_iff_of_nodup (hpairs.imp (hne _ _)) (hothers.imp (hne _ _))).mpr hmem)
  intro e e' _ _ hlt hgt
  exact absurd hgt (lt_asymm hlt)

theorem mem_insert_self (fields : Fields) (key : String) (value : Json) :
    (key, value) ∈ insert fields key value :=
  mem_of_get? (get?_insert_self fields key value)

theorem Ascending.erase {fields : Fields} (h : Ascending fields) (key : String) :
    Ascending (Fields.erase fields key) :=
  h.sublist List.filter_sublist

/-- Storing under one key and removing another may be done in either order. -/
theorem Ascending.erase_insert_of_ne {fields : Fields} (h : Ascending fields) {key other : String}
    (hne : key ≠ other) (value : Json) :
    Fields.erase (Fields.insert fields key value) other =
      Fields.insert (Fields.erase fields other) key value := by
  refine ((h.insert key value).erase other).ext ((h.erase other).insert key value) ?_
  intro name
  rw [get?_insert]
  by_cases hother : other = name
  · subst hother
    rw [get?_erase_self, if_neg hne, get?_erase_self]
  · rw [get?_erase_of_ne _ hother, get?_insert, get?_erase_of_ne _ hother]

/-- Two keys may be stored in either order. -/
theorem Ascending.insert_comm {fields : Fields} (h : Ascending fields) {key other : String}
    (hne : key ≠ other) (value otherValue : Json) :
    Fields.insert (Fields.insert fields key value) other otherValue =
      Fields.insert (Fields.insert fields other otherValue) key value := by
  refine ((h.insert key value).insert other otherValue).ext
    ((h.insert other otherValue).insert key value) ?_
  intro name
  simp only [get?_insert]
  by_cases hkey : key = name
  · subst hkey
    rw [if_neg (Ne.symm hne), if_pos rfl, if_pos rfl]
  · rw [if_neg hkey, if_neg hkey]

theorem Ascending.insertAll {fields : Fields} (h : Ascending fields) (pairs : Fields) :
    Ascending (Fields.insertAll fields pairs) := by
  induction pairs generalizing fields with
  | nil => exact h
  | cons e rest ih => exact ih (h.insert e.1 e.2)

/-- The entries have every key of the given ones. -/
def Covers (fields part : Fields) : Prop :=
  ∀ key, (get? part key).isSome → (get? fields key).isSome

theorem Covers.insert {fields part : Fields} (h : Covers fields part) (key : String)
    (value : Json) : Covers (Fields.insert fields key value) part := by
  intro other hother
  rw [get?_insert]
  by_cases hkey : key = other
  · simp [hkey]
  · rw [if_neg hkey]
    exact h other hother

theorem covers_insertAll (fields pairs : Fields) :
    Covers (Fields.insertAll fields pairs) fields := by
  have hall : ∀ upper, Covers upper fields → Covers (Fields.insertAll upper pairs) fields := by
    induction pairs with
    | nil => exact fun _ h => h
    | cons e rest ih => exact fun upper h => ih _ (h.insert e.1 e.2)
  exact hall fields fun _ h => h

/-- Nothing is left of an object below one that has all of its keys. -/
theorem insertAll_eq_upper {fields upper : Fields} (h : Ascending fields) (hupper : Ascending upper)
    (hcovers : Covers upper fields) : insertAll fields upper = upper := by
  refine (h.insertAll upper).ext hupper ?_
  intro key
  rw [get?_insertAll fields upper hupper.nodup]
  cases hget : get? upper key with
  | some value => rfl
  | none =>
    have hnone : get? fields key = none := by
      refine Option.eq_none_iff_forall_ne_some.mpr fun value hvalue => ?_
      have hsome := hcovers key (by rw [hvalue]; rfl)
      rw [hget] at hsome
      cases hsome
    rw [hnone]
    rfl

end Fields

namespace Json

/-- A document that can be written down. -/
inductive WellFormed : Json → Prop where
  | null : WellFormed .null
  | bool (value : Bool) : WellFormed (.bool value)
  | int {value : Int} (lower : -(words63 : Int) ≤ value) (upper : value < words64) :
    WellFormed (.int value)
  | float (value : Float) : WellFormed (.float value)
  | text (value : String) : WellFormed (.text value)
  | array {items : List Json} (items_wellFormed : ∀ v ∈ items, WellFormed v) :
    WellFormed (.array items)
  | object {fields : Fields} (ascending : Fields.Ascending fields)
    (values_wellFormed : ∀ e ∈ fields, WellFormed e.2) : WellFormed (.object fields)

/-- A number of less than 64 bits. -/
theorem WellFormed.nat {n : Nat} (h : n < words64) : WellFormed (.int n) := by
  refine .int ?_ ?_
  · have hpos : (0 : Int) ≤ n := Int.natCast_nonneg n
    omega
  · exact_mod_cast h

end Json

namespace Fields

def WellFormed (fields : Fields) : Prop := (Json.object fields).WellFormed

def Values : Fields → Prop
  | [] => True
  | e :: rest => e.2.WellFormed ∧ Values rest

namespace WellFormed

variable {fields : Fields}

theorem of_keys (keys : List String) (hkeys : fields.map Prod.fst = keys)
    (hasc : keys.Pairwise (· < ·)) (h : Values fields) : fields.WellFormed := by
  refine .object ?_ ?_
  · rw [Ascending, hkeys]
    exact hasc
  · clear hkeys
    induction fields with
    | nil => simp
    | cons first rest ih =>
      obtain ⟨hfirst, hrest⟩ := h
      intro e he
      rcases List.mem_cons.mp he with rfl | he
      · exact hfirst
      · exact ih hrest e he

theorem ascending (h : fields.WellFormed) : Ascending fields := by
  cases h with
  | object ascending values => exact ascending

theorem values (h : fields.WellFormed) {e : String × Json} (he : e ∈ fields) :
    e.2.WellFormed := by
  cases h with
  | object ascending values => exact values e he

theorem nil : WellFormed [] := .object List.Pairwise.nil (by simp)

theorem of_get? (h : fields.WellFormed) {key : String} {value : Json}
    (hget : get? fields key = some value) : value.WellFormed := by
  obtain ⟨e, he, rfl⟩ : ∃ e ∈ fields, e.2 = value := by
    clear h
    induction fields with
    | nil => simp at hget
    | cons first rest ih =>
      obtain ⟨k, v⟩ := first
      rw [get?_cons] at hget
      by_cases hk : k = key
      · rw [if_pos hk] at hget
        exact ⟨(k, v), List.mem_cons_self .., Option.some.inj hget⟩
      · rw [if_neg hk] at hget
        obtain ⟨e, he, hvalue⟩ := ih hget
        exact ⟨e, List.mem_cons_of_mem _ he, hvalue⟩
  exact h.values he

theorem sublist (h : fields.WellFormed) {part : Fields} (hsub : part.Sublist fields) :
    WellFormed part :=
  .object (h.ascending.sublist hsub) fun _ he => h.values (hsub.subset he)

theorem erase (h : fields.WellFormed) (key : String) : WellFormed (Fields.erase fields key) :=
  h.sublist List.filter_sublist

theorem insert (h : fields.WellFormed) (key : String) {value : Json} (hvalue : value.WellFormed) :
    WellFormed (Fields.insert fields key value) := by
  refine .object (h.ascending.insert key value) ?_
  intro e he
  rcases mem_insert he with rfl | he
  · exact hvalue
  · exact h.values he

theorem insertAll (h : fields.WellFormed) {pairs : Fields}
    (hpairs : ∀ e ∈ pairs, e.2.WellFormed) : WellFormed (Fields.insertAll fields pairs) := by
  induction pairs generalizing fields with
  | nil => exact h
  | cons e rest ih =>
    exact ih (h.insert e.1 (hpairs e (List.mem_cons_self ..)))
      fun x hx => hpairs x (List.mem_cons_of_mem _ hx)

end WellFormed

end Fields

end ActivityFlow
