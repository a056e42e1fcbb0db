import ActivityFlow.Workflow
import Mathlib.Data.List.Nodup
import Mathlib.Tactic.SplitIfs

/-!
# Values under names

Named values keep the order in which their names first appeared. A value that is put under a name
takes the place of the one that is there, or goes to the end.
-/
namespace ActivityFlow

variable {α : Type}

/-! ## Looking values up -/

theorem lookup_cons_ite (key : String) (value : α) (rest : List (String × α)) (name : String) :
    ((key, value) :: rest).lookup name = if name = key then some value else rest.lookup name := by
  rw [List.lookup_cons]
  by_cases h : name = key
  · rw [if_pos h, beq_iff_eq.mpr h]
  · rw [if_neg h, beq_false_of_ne h]

theorem lookup_eq_none_iff_notMem {entries : List (String × α)} {name : String} :
    entries.lookup name = none ↔ name ∉ entries.map Prod.fst := by
  simp only [List.lookup_eq_none_iff, bne_iff_ne, List.mem_map, not_exists, not_and]
  exact ⟨fun h e he heq => h e he heq.symm, fun h e he heq => h e he heq.symm⟩

theorem mem_of_lookup {entries : List (String × α)} {name : String} {value : α}
    (h : entries.lookup name = some value) : (name, value) ∈ entries := by
  obtain ⟨before, after, rfl, -⟩ := List.lookup_eq_some_iff.mp h
  simp

/-! ## One more value -/

theorem map_fst_putLast (entries : List (String × α)) (name : String) (value : α) :
    (putLast entries name value).map Prod.fst =
      if name ∈ entries.map Prod.fst then entries.map Prod.fst
      else entries.map Prod.fst ++ [name] := by
  induction entries with
  | nil => simp [putLast]
  | cons e rest ih =>
    obtain ⟨key, old⟩ := e
    by_cases hkey : key = name
    · subst hkey
      simp [putLast]
    · rw [putLast, if_neg hkey, List.map_cons, ih]
      by_cases hmem : name ∈ rest.map Prod.fst
      · simp [hmem]
      · simp [hmem, Ne.symm hkey]

theorem nodup_putLast {entries : List (String × α)} (h : (entries.map Prod.fst).Nodup)
    (name : String) (value : α) : ((putLast entries name value).map Prod.fst).Nodup := by
  rw [map_fst_putLast]
  split_ifs with hmem
  · exact h
  · simpa using List.Nodup.concat hmem h

theorem putLast_of_notMem {entries : List (String × α)} {name : String}
    (h : name ∉ entries.map Prod.fst) (value : α) :
    putLast entries name value = entries ++ [(name, value)] := by
  induction entries with
  | nil => rfl
  | cons e rest ih =>
    rw [List.map_cons, List.mem_cons, not_or] at h
    rw [putLast, if_neg (Ne.symm h.1), ih h.2]
    rfl

/-- Under a name that is there the value is replaced, and all others stay. -/
theorem putLast_of_mem {entries : List (String × α)} (h : (entries.map Prod.fst).Nodup)
    {name : String} (hname : name ∈ entries.map Prod.fst) (value : α) :
    putLast entries name value =
      entries.map fun e => (e.1, if e.1 = name then value else e.2) := by
  induction entries with
  | nil => cases hname
  | cons e rest ih =>
    obtain ⟨key, old⟩ := e
    rw [List.map_cons, List.nodup_cons] at h
    obtain ⟨hfresh, hrest⟩ := h
    by_cases hkey : key = name
    · subst hkey
      have hothers : rest.map (fun e => (e.1, if e.1 = key then value else e.2)) = rest.map id := by
        refine List.map_congr_left fun e he => ?_
        have hne : e.1 ≠ key := by
          rintro rfl
          exact hfresh (List.mem_map.mpr ⟨e, he, rfl⟩)
        rw [if_neg hne, id]
      rw [putLast, if_pos rfl, List.map_cons, if_pos rfl, hothers, List.map_id]
    · have hmem : name ∈ rest.map Prod.fst := by
        rcases List.mem_cons.mp hname with heq | hmem
        · exact absurd heq.symm hkey
        · exact hmem
      rw [putLast, if_neg hkey, List.map_cons, if_neg hkey, ih hrest hmem]

theorem lookup_putLast (entries : List (String × α)) (name : String) (value : α)
    (other : String) :
    (putLast entries name value).lookup other =
      if other = name then some value else entries.lookup other := by
  induction entries with
  | nil => rw [putLast, lookup_cons_ite]
  | cons e rest ih =>
    obtain ⟨key, old⟩ := e
    rw [putLast]
    by_cases hkey : key = name
    · rw [if_pos hkey, lookup_cons_ite, lookup_cons_ite, hkey]
      split_ifs <;> rfl
    · rw [if_neg hkey, lookup_cons_ite, lookup_cons_ite, ih]
      by_cases h : other = key
      · have hne : ¬ other = name := fun heq => hkey (h.symm.trans heq)
        rw [if_pos h, if_pos h, if_neg hne]
      · rw [if_neg h, if_neg h]

/-! ## Many values -/

/-- Puts values under their names one after another. -/
def putAll (entries others : List (String × α)) : List (String × α) :=
  others.foldl (fun named e => putLast named e.1 e.2) entries

theorem putAll_cons (entries : List (String × α)) (e : String × α) (rest : List (String × α)) :
    putAll entries (e :: rest) = putAll (putLast entries e.1 e.2) rest := rfl

theorem nodup_putAll {entries : List (String × α)} (h : (entries.map Prod.fst).Nodup)
    (others : List (String × α)) : ((putAll entries others).map Prod.fst).Nodup := by
  induction others generalizing entries with
  | nil => exact h
  | cons e rest ih => exact ih (nodup_putLast h e.1 e.2)

/-- New names follow the old ones in the order in which they first appear. -/
theorem map_fst_putAll (entries others : List (String × α)) :
    (putAll entries others).map Prod.fst = entries.map Prod.fst ++
      ((others.map Prod.fst).filter fun name => name ∉ entries.map Prod.fst).eraseDups := by
  induction others generalizing entries with
  | nil => simp [putAll]
  | cons e rest ih =>
    rw [putAll_cons, ih, map_fst_putLast]
    by_cases hmem : e.1 ∈ entries.map Prod.fst
    · rw [if_pos hmem, List.map_cons, List.filter_cons_of_neg (by simpa using hmem)]
    · rw [if_neg hmem, List.map_cons, List.filter_cons_of_pos (by simpa using hmem),
        List.eraseDups_cons, List.filter_filter, List.append_assoc, List.singleton_append]
      congr 3
      refine List.filter_congr fun name _ => ?_
      rw [Bool.eq_iff_iff]
      simp only [decide_eq_true_eq, Bool.and_eq_true, Bool.not_eq_true', beq_eq_false_iff_ne,
        List.mem_append, List.mem_singleton, not_or, and_comm, Ne]

/-- Of several values under one name the last one counts. -/
theorem lookup_putAll (entries others : List (String × α)) (name : String) :
    (putAll entries others).lookup name =
      (others.reverse.lookup name).or (entries.lookup name) := by
  -- What is put in later stands earlier in the reversed list, so it is found first.
  induction others generalizing entries with
  | nil => rfl
  | cons e rest ih =>
    rw [putAll_cons, ih, lookup_putLast, List.reverse_cons, List.lookup_append, Option.or_assoc]
    congr 1
    rw [lookup_cons_ite]
    split_ifs <;> rfl

/-- Values under distinct names replace those that are there, and the others follow. -/
theorem putAll_of_nodup {entries others : List (String × α)} (h : (entries.map Prod.fst).Nodup)
    (hothers : (others.map Prod.fst).Nodup) :
    putAll entries others = entries.map (fun e => (e.1, (others.lookup e.1).getD e.2)) ++
      others.filter fun e => e.1 ∉ entries.map Prod.fst := by
  induction others generalizing entries with
  | nil => simp [putAll]
  | cons e rest ih =>
    obtain ⟨name, value⟩ := e
    rw [List.map_cons, List.nodup_cons] at hothers
    obtain ⟨hfresh, hrest⟩ := hothers
    have hnone : rest.lookup name = none := lookup_eq_none_iff_notMem.mpr hfresh
    rw [putAll_cons, ih (nodup_putLast h name value) hrest, map_fst_putLast]
    -- Either the value replaces one in place, or the names grow by its own, which does not recur.
    by_cases hmem : name ∈ entries.map Prod.fst
    · rw [if_pos hmem, putLast_of_mem h hmem, List.map_map,
        List.filter_cons_of_neg (by simpa using hmem)]
      congr 1
      refine List.map_congr_left fun e _ => ?_
      rw [Function.comp_apply, lookup_cons_ite]
      by_cases heq : e.1 = name
      · simp only [heq, if_true, hnone, Option.getD_none, Option.getD_some]
      · simp only [heq, if_false]
    · rw [if_neg hmem, putLast_of_notMem hmem, List.map_append, List.append_assoc,
        List.filter_cons_of_pos (by simpa using hmem)]
      congr 1
      · refine List.map_congr_left fun e he => ?_
        have hne : e.1 ≠ name := by
          rintro rfl
          exact hmem (List.mem_map.mpr ⟨e, he, rfl⟩)
        rw [lookup_cons_ite, if_neg hne]
      · rw [List.map_singleton, hnone, Option.getD_none, List.singleton_append]
        congr 1
        refine List.filter_congr fun e he => ?_
        have hne : e.1 ≠ name := by
          rintro rfl
          exact hfresh (List.mem_map.mpr ⟨e, he, rfl⟩)
        simp [hne]

/-- Values under distinct names stay as they are. -/
theorem putAll_nil_of_nodup {others : List (String × α)} (h : (others.map Prod.fst).Nodup) :
    putAll [] others = others := by
  have hnil : (([] : List (String × α)).map Prod.fst).Nodup := List.nodup_nil
  rw [putAll_of_nodup hnil h]
  simp

end ActivityFlow
