import ActivityFlow.Yaml.Node.Decoding
import Mathlib.Data.List.Basic

/-!
# Keys of a document

The keys that are written at the top of a document are those that it is read with, also where an
alias stands for a key.
-/
namespace ActivityFlow.Yaml

namespace Serial

/-- The text of a key. An alias stands for the last node with its number. -/
def keyText? (targets : List (Nat × Serial)) : Serial → Option String
  | .scalar _ value => some value.text
  | .alias number =>
    match (targets.filter (·.1 == number)).getLast? with
    | some (_, .scalar _ value) => some value.text
    | _ => none
  | _ => none

/-- A document has an entry whose key has the given text. -/
def HasKey (document : Serial) (name : String) : Prop :=
  match document with
  | .mapping _ _ entries => ∃ e ∈ entries, keyText? document.anchored e.1 = some name
  | _ => False

instance : (document : Serial) → (name : String) → Decidable (document.HasKey name)
  | .mapping anchor tag entries, name =>
    inferInstanceAs (Decidable (∃ e ∈ entries,
      keyText? (Serial.mapping anchor tag entries).anchored e.1 = some name))
  | .alias _, _ | .scalar _ _, _ | .sequence _ _ _, _ => inferInstanceAs (Decidable False)

end Serial

namespace Node

/-- A mapping has an entry whose key has the given text. -/
def HasKey (node : Node) (name : String) : Prop :=
  match node with
  | .mapping _ entries => ∃ e ∈ entries, e.1.text? = some name
  | _ => False

end Node

namespace Serial

theorem exists_of_run_mapM {α β : Type} {f : α → Unfolding β} {xs : List α} {ys : List β}
    {left left' : Nat} (h : (xs.mapM f).run left = some (ys, left')) {x : α} (hx : x ∈ xs) :
    ∃ y ∈ ys, ∃ before after, (f x).run before = some (y, after) := by
  induction xs generalizing ys left with
  | nil => cases hx
  | cons first rest ih =>
    rw [List.mapM_cons, StateT.run_bind] at h
    obtain ⟨⟨y, middle⟩, hfirst, h⟩ := Option.bind_eq_some_iff.mp h
    rw [StateT.run_bind] at h
    obtain ⟨⟨later, last⟩, hlater, h⟩ := Option.bind_eq_some_iff.mp h
    obtain ⟨rfl, rfl⟩ := Prod.mk.inj (Option.some.inj h)
    rcases List.mem_cons.mp hx with rfl | hx
    · exact ⟨y, List.mem_cons_self .., left, middle, hfirst⟩
    · obtain ⟨z, hz, hrun⟩ := ih hlater hx
      exact ⟨z, List.mem_cons_of_mem _ hz, hrun⟩

theorem run_target_of_keyText? {targets : List (Nat × Serial)} {key : Serial} {name : String}
    (hkey : keyText? targets key = some name) {left left' : Nat} {node : Serial}
    (h : (target targets key).run left = some (node, left')) :
    ∃ anchor s, node = .scalar anchor s ∧ s.text = name := by
  cases key with
  | scalar anchor s =>
    obtain ⟨rfl, -⟩ := Prod.mk.inj (Option.some.inj h)
    exact ⟨anchor, s, rfl, Option.some.inj hkey⟩
  | «alias» number =>
    rw [keyText?] at hkey
    rw [target, StateT.run_bind] at h
    obtain ⟨⟨count, middle⟩, -, h⟩ := Option.bind_eq_some_iff.mp h
    split at hkey
    · rename_i anchor s hlast
      rw [hlast] at h
      cases count with
      | zero => cases h
      | succ count =>
        obtain ⟨rfl, -⟩ := Prod.mk.inj (Option.some.inj h)
        exact ⟨anchor, s, rfl, Option.some.inj hkey⟩
    · cases hkey
  | sequence anchor tag items => cases hkey
  | mapping anchor tag entries => cases hkey

theorem unfold_of_keyText? {targets : List (Nat × Serial)} {key : Serial} {name : String}
    (hkey : keyText? targets key = some name) {depth left left' : Nat} {node : Node}
    (h : (unfold targets depth key).run left = some (node, left')) :
    ∃ s, node = .scalar s ∧ s.text = name := by
  -- A scalar is taken at every depth; only the way to it through the definition differs.
  cases depth with
  | zero =>
    rw [unfold, StateT.run_bind] at h
    obtain ⟨⟨found, middle⟩, hfound, h⟩ := Option.bind_eq_some_iff.mp h
    obtain ⟨anchor, s, rfl, htext⟩ := run_target_of_keyText? hkey hfound
    obtain ⟨rfl, -⟩ := Prod.mk.inj (Option.some.inj h)
    exact ⟨s, rfl, htext⟩
  | succ depth =>
    rw [unfold, StateT.run_bind] at h
    obtain ⟨⟨found, middle⟩, hfound, h⟩ := Option.bind_eq_some_iff.mp h
    obtain ⟨anchor, s, rfl, htext⟩ := run_target_of_keyText? hkey hfound
    obtain ⟨rfl, -⟩ := Prod.mk.inj (Option.some.inj h)
    exact ⟨s, rfl, htext⟩

theorem unfoldEntry_of_keyText? {targets : List (Nat × Serial)} {entry : Serial × Serial}
    {name : String} (hkey : keyText? targets entry.1 = some name) {counts : String → Bool}
    (hcounts : counts name = true) {left left' : Nat} {o : Option (Node × Node)}
    (h : (unfoldEntry targets counts entry).run left = some (o, left')) :
    ∃ e, o = some e ∧ e.1.text? = some name := by
  rw [unfoldEntry, StateT.run_bind] at h
  obtain ⟨⟨key, middle⟩, hfound, h⟩ := Option.bind_eq_some_iff.mp h
  obtain ⟨s, rfl, rfl⟩ := unfold_of_keyText? hkey hfound
  dsimp only at h
  rw [if_pos hcounts, StateT.run_bind] at h
  obtain ⟨⟨value, last⟩, -, h⟩ := Option.bind_eq_some_iff.mp h
  obtain ⟨rfl, -⟩ := Prod.mk.inj (Option.some.inj h)
  exact ⟨(.scalar s, value), rfl, rfl⟩

/-- A key that counts is kept. -/
theorem hasKey_of_unfoldDocument {document : Serial} {name : String} (h : document.HasKey name)
    {counts : String → Bool} (hcounts : counts name = true) {node : Node}
    (hnode : document.unfoldDocument counts = some node) : node.HasKey name := by
  cases document with
  | mapping anchor tag entries =>
    obtain ⟨entry, hentry, hkey⟩ := h
    rw [unfoldDocument] at hnode
    obtain ⟨⟨found, last⟩, hrun, rfl⟩ := Option.map_eq_some_iff.mp hnode
    rw [StateT.run_bind] at hrun
    obtain ⟨⟨kept, middle⟩, hkept, hrun⟩ := Option.bind_eq_some_iff.mp hrun
    obtain ⟨rfl, -⟩ := Prod.mk.inj (Option.some.inj hrun)
    obtain ⟨o, ho, before, after, hentry'⟩ := exists_of_run_mapM hkept hentry
    obtain ⟨e, rfl, htext⟩ := unfoldEntry_of_keyText? hkey hcounts hentry'
    exact ⟨e, List.mem_filterMap.mpr ⟨some e, ho, rfl⟩, htext⟩
  | «alias» number => exact h.elim
  | scalar anchor s => exact h.elim
  | sequence anchor tag items => exact h.elim

end Serial

end ActivityFlow.Yaml
