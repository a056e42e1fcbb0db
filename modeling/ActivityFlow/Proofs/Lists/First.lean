import Mathlib.Data.List.Basic
import Mathlib.Data.Nat.Find

/-!
# First elements

Much that goes through a list ends at the first element that has some property: a search finds it,
a lookup finds the first entry of a name, and a list whose elements may fail ends with the failure
of the first one that does.
-/
namespace ActivityFlow

/-- The first element of a list with a property, and its place. -/
structure FirstIn {α : Type} (l : List α) (P : α → Prop) (place : Nat) (a : α) : Prop where
  at_place : l[place]? = some a
  holds : P a
  earlier : ∀ other < place, ∀ b, l[other]? = some b → ¬ P b

variable {α β : Type}

theorem exists_firstIn {l : List α} {P : α → Prop} (h : ∃ a ∈ l, P a) :
    ∃ place a, FirstIn l P place a := by
  classical
  have hex : ∃ place : Nat, ∃ a, l[place]? = some a ∧ P a := by
    obtain ⟨a, hmem, ha⟩ := h
    obtain ⟨place, hget⟩ := List.mem_iff_getElem?.mp hmem
    exact ⟨place, a, hget, ha⟩
  obtain ⟨a, hget, ha⟩ := Nat.find_spec hex
  exact ⟨Nat.find hex, a, hget, ha, fun other hlt b hb hP => Nat.find_min hex hlt ⟨b, hb, hP⟩⟩

theorem FirstIn.cases_cons {l : List α} {P : α → Prop} {place : Nat} {head a : α}
    (h : FirstIn (head :: l) P place a) :
    (place = 0 ∧ head = a) ∨ ∃ n, place = n + 1 ∧ ¬ P head ∧ FirstIn l P n a := by
  obtain ⟨hget, ha, hearlier⟩ := h
  cases place with
  | zero => exact Or.inl ⟨rfl, by simpa using hget⟩
  | succ n =>
    refine Or.inr ⟨n, rfl, hearlier 0 (by omega) head rfl, by simpa using hget, ha, ?_⟩
    intro other hlt b hb
    exact hearlier (other + 1) (by omega) b (by simpa using hb)

/-! ## Searches -/

/-- The first element with a property is the one that a search for it finds. -/
theorem find?_eq_some_of_firstIn {l : List α} {p : α → Bool} {place : Nat} {a : α}
    (h : FirstIn l (fun a => p a = true) place a) : l.find? p = some a := by
  obtain ⟨hlt, rfl⟩ := List.getElem?_eq_some_iff.mp h.at_place
  rw [List.find?_eq_some_iff_getElem]
  refine ⟨h.holds, place, hlt, rfl, fun other hother => ?_⟩
  simpa using h.earlier other hother _ (List.getElem?_eq_getElem (Nat.lt_trans hother hlt))

theorem lookup_eq_some_iff_firstIn {entries : List (String × α)} {name : String} {value : α} :
    entries.lookup name = some value ↔
      ∃ place, FirstIn entries (fun e => e.1 = name) place (name, value) := by
  rw [List.lookup_eq_some_iff]
  constructor
  · rintro ⟨before, after, rfl, hbefore⟩
    refine ⟨before.length, by simp, rfl, ?_⟩
    intro other hlt e he heq
    rw [List.getElem?_append_left hlt] at he
    have hne := hbefore e (List.mem_of_getElem? he)
    simp [heq] at hne
  · rintro ⟨place, hplace, -, hearlier⟩
    obtain ⟨hlt, hget⟩ := List.getElem?_eq_some_iff.mp hplace
    refine ⟨entries.take place, entries.drop (place + 1), ?_, ?_⟩
    · rw [← hget, List.getElem_cons_drop, List.take_append_drop]
    · intro e he
      obtain ⟨other, hother, rfl⟩ := List.mem_take_iff_getElem.mp he
      have hne := hearlier other (by omega) _ (List.getElem?_eq_getElem (by omega))
      simpa using Ne.symm hne

/-! ## Lists whose elements may fail -/

variable {φ : Type} {f : α → Except φ β} {l : List α}

theorem mapM_of_all {g : α → β} (h : ∀ a ∈ l, f a = .ok (g a)) : l.mapM f = .ok (l.map g) := by
  induction l with
  | nil => rfl
  | cons first rest ih =>
    obtain ⟨hfirst, hrest⟩ := List.forall_mem_cons.mp h
    rw [List.mapM_cons, hfirst, ih hrest]
    rfl

/-- The first element that does not pass decides how a list fails. -/
theorem mapM_of_firstIn {P : α → Prop} {place : Nat} {a : α} {failure : φ} (h : FirstIn l P place a)
    (hpass : ∀ b, ¬ P b → ∃ value, f b = .ok value) (hfail : f a = .error failure) :
    l.mapM f = .error failure := by
  induction l generalizing place with
  | nil => simpa using h.at_place
  | cons first rest ih =>
    rw [List.mapM_cons]
    rcases h.cases_cons with ⟨-, rfl⟩ | ⟨n, -, hfirst, hrest⟩
    · rw [hfail]
      rfl
    · obtain ⟨value, hvalue⟩ := hpass first hfirst
      rw [hvalue, ih hrest]
      rfl

end ActivityFlow
