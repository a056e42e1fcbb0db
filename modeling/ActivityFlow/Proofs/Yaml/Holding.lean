import ActivityFlow.Proofs.Document.Named
import ActivityFlow.Proofs.Json.WellFormed
import ActivityFlow.Proofs.Yaml.Keys
import ActivityFlow.Yaml.Node.Decoding
import Mathlib.Data.List.Forall2
import Mathlib.Data.List.Nodup

/-!
# Nodes that hold documents

What a writer of documents and the reader have to agree on is little: a document that was written
is read as a node without tags which has the same shape, with the entries in the order in which
they were written, and whose scalars stand for the values that were written. Such a node holds the
document. Records, lists and mappings are read from it as they were written.
-/
namespace ActivityFlow.Yaml

/-! ## Scalars -/

/-- No collection. -/
def IsLeaf : Json → Prop
  | .array _ | .object _ => False
  | _ => True

namespace Plain

/-- What a plain text may stand for: no collection, and a text only if it is this text and no word
for null. -/
inductive StandsFor (s : String) : Json → Prop where
  | null (word : (s.isEmpty || isNull s) = true) : StandsFor s .null
  | bool (b : Bool) : StandsFor s (.bool b)
  | int (n : Int) : StandsFor s (.int n)
  | float (x : Float) : StandsFor s (.float x)
  | text (word : (s.isEmpty || isNull s) = false) : StandsFor s (.text s)

theorem StandsFor.isLeaf {s : String} {v : Json} (h : StandsFor s v) : IsLeaf v := by
  cases h <;> trivial

theorem eq_of_intValue? {n : Int} {v : Json} (h : intValue? n = some v) : v = .int n := by
  rw [intValue?] at h
  split_ifs at h
  exact (Option.some.inj h).symm

theorem standsFor_of_value? {s : String} {v : Json} (h : value? s = some v) : StandsFor s v := by
  unfold value? at h
  by_cases hnull : (s.isEmpty || isNull s) = true
  · rw [if_pos hnull] at h
    obtain rfl := Option.some.inj h
    exact .null hnull
  have hword : (s.isEmpty || isNull s) = false := Bool.eq_false_iff.mpr hnull
  rw [if_neg hnull] at h
  cases hbool : bool? s with
  | some b =>
    rw [hbool] at h
    obtain rfl := Option.some.inj h
    exact .bool b
  | none =>
    cases hint : int? s with
    | some n =>
      rw [hbool, hint] at h
      obtain rfl := eq_of_intValue? h
      exact .int n
    | none =>
      rw [hbool, hint] at h
      dsimp only at h
      by_cases hpad : isPadded s.toList = true
      · rw [if_pos hpad] at h
        obtain rfl := Option.some.inj h
        exact .text hword
      · rw [if_neg hpad] at h
        cases hfloat : float? s with
        | some x =>
          rw [hfloat] at h
          obtain rfl := Option.some.inj h
          exact .float x
        | none =>
          rw [hfloat] at h
          obtain rfl := Option.some.inj h
          exact .text hword

end Plain

namespace Scalar

variable {s : Scalar} {t : String} {v : Json}

/-- What a scalar without a tag may stand for. -/
theorem value?_of_untagged (htag : s.tag = none) :
    s.value? = if s.style = .plain then Plain.value? s.text else some (.text s.text) := by
  rw [value?, htag]

/-- A scalar stands for no collection. -/
theorem isLeaf_of_value? (h : s.value? = some v) : IsLeaf v := by
  cases htag : s.tag with
  | none =>
    rw [value?_of_untagged htag] at h
    split_ifs at h
    · exact (Plain.standsFor_of_value? h).isLeaf
    · obtain rfl := Option.some.inj h
      trivial
  | some tag =>
    rw [value?, htag] at h
    dsimp only at h
    rw [taggedValue?] at h
    split_ifs at h
    · obtain ⟨b, -, rfl⟩ := Option.map_eq_some_iff.mp h
      trivial
    · obtain ⟨n, -, hn⟩ := Option.bind_eq_some_iff.mp h
      obtain rfl := Plain.eq_of_intValue? hn
      trivial
    · obtain ⟨x, -, rfl⟩ := Option.map_eq_some_iff.mp h
      trivial
    · obtain rfl := Option.some.inj h
      trivial
    · obtain rfl := Option.some.inj h
      trivial

/-- A scalar without a tag that stands for a text is this text, and is not taken for null. -/
theorem of_value?_text (htag : s.tag = none) (h : s.value? = some (.text t)) :
    s.text = t ∧ (s.style = .quoted ∨ (s.text.isEmpty || Plain.isNull s.text) = false) := by
  rw [value?_of_untagged htag] at h
  by_cases hplain : s.style = .plain
  · rw [if_pos hplain] at h
    have hstands := Plain.standsFor_of_value? h
    cases hstands with
    | text word => exact ⟨rfl, .inr word⟩
  · rw [if_neg hplain] at h
    refine ⟨Json.text.inj (Option.some.inj h), .inl ?_⟩
    cases hstyle : s.style with
    | plain => exact absurd hstyle hplain
    | quoted => rfl

theorem of_value?_null (htag : s.tag = none) (h : s.value? = some .null) :
    s.style = .plain ∧ (s.text.isEmpty || Plain.isNull s.text) = true := by
  rw [value?_of_untagged htag] at h
  by_cases hplain : s.style = .plain
  · rw [if_pos hplain] at h
    have hstands := Plain.standsFor_of_value? h
    cases hstands with
    | null word => exact ⟨hplain, word⟩
  · rw [if_neg hplain] at h
    cases h

end Scalar

/-! ## Holding -/

namespace Node

mutual

/-- A node holds a document: it has the shape of it, no tags, and scalars that stand for its
values. -/
def Holds : Node → Json → Prop
  | .scalar s, v => s.tag = none ∧ s.value? = some v
  | .sequence tag items, .array values => tag = none ∧ ItemsHold items values
  | .mapping tag entries, .object fields => tag = none ∧ EntriesHold entries fields
  | .sequence _ _, _ | .mapping _ _, _ => False

/-- Items hold documents one by one. -/
def ItemsHold : List Node → List Json → Prop
  | [], [] => True
  | item :: items, v :: values => Holds item v ∧ ItemsHold items values
  | [], _ :: _ | _ :: _, [] => False

/-- Entries hold those of an object one by one, and their keys the names. -/
def EntriesHold : List (Node × Node) → Fields → Prop
  | [], [] => True
  | (key, node) :: entries, (name, v) :: fields =>
    (Holds key (.text name) ∧ Holds node v) ∧ EntriesHold entries fields
  | [], _ :: _ | _ :: _, [] => False

end

mutual

/-- Whether a node holds a document can be computed. -/
def decidableHolds : (node : Node) → (v : Json) → Decidable (node.Holds v)
  | .scalar s, v => inferInstanceAs (Decidable (s.tag = none ∧ s.value? = some v))
  | .sequence tag items, .array values =>
    have := decidableItemsHold items values
    inferInstanceAs (Decidable (tag = none ∧ ItemsHold items values))
  | .mapping tag entries, .object fields =>
    have := decidableEntriesHold entries fields
    inferInstanceAs (Decidable (tag = none ∧ EntriesHold entries fields))
  | .sequence _ _, .null | .sequence _ _, .bool _ | .sequence _ _, .int _
  | .sequence _ _, .float _ | .sequence _ _, .text _ | .sequence _ _, .object _
  | .mapping _ _, .null | .mapping _ _, .bool _ | .mapping _ _, .int _
  | .mapping _ _, .float _ | .mapping _ _, .text _ | .mapping _ _, .array _ =>
    inferInstanceAs (Decidable False)

/-- Whether items hold documents can be computed. -/
def decidableItemsHold : (items : List Node) → (values : List Json) →
    Decidable (ItemsHold items values)
  | [], [] => inferInstanceAs (Decidable True)
  | item :: items, v :: values =>
    have := decidableHolds item v
    have := decidableItemsHold items values
    inferInstanceAs (Decidable (item.Holds v ∧ ItemsHold items values))
  | [], _ :: _ | _ :: _, [] => inferInstanceAs (Decidable False)

/-- Whether entries hold those of an object can be computed. -/
def decidableEntriesHold : (entries : List (Node × Node)) → (fields : Fields) →
    Decidable (EntriesHold entries fields)
  | [], [] => inferInstanceAs (Decidable True)
  | (key, node) :: entries, (name, v) :: fields =>
    have := decidableHolds key (.text name)
    have := decidableHolds node v
    have := decidableEntriesHold entries fields
    inferInstanceAs (Decidable ((key.Holds (.text name) ∧ node.Holds v) ∧
      EntriesHold entries fields))
  | [], _ :: _ | _ :: _, [] => inferInstanceAs (Decidable False)

end

instance (node : Node) (v : Json) : Decidable (node.Holds v) := decidableHolds node v

variable {α : Type} {node : Node}

theorem itemsHold_iff {items : List Node} {values : List Json} :
    ItemsHold items values ↔ List.Forall₂ Holds items values := by
  induction items generalizing values with
  | nil => cases values <;> simp [ItemsHold]
  | cons item items ih => cases values <;> simp [ItemsHold, ih]

theorem entriesHold_iff {entries : List (Node × Node)} {fields : Fields} :
    EntriesHold entries fields ↔
      List.Forall₂ (fun e f => e.1.Holds (.text f.1) ∧ e.2.Holds f.2) entries fields := by
  induction entries generalizing fields with
  | nil => cases fields <;> simp [EntriesHold]
  | cons e entries ih => cases fields <;> simp [EntriesHold, ih]

/-! ### Scalars -/

theorem Holds.text {t : String} (h : node.Holds (.text t)) :
    ∃ s, node = .scalar s ∧ s.text = t ∧ s.tag = none ∧
      (s.style = .quoted ∨ (s.text.isEmpty || Plain.isNull s.text) = false) := by
  cases node with
  | scalar s =>
    obtain ⟨htext, hword⟩ := Scalar.of_value?_text h.1 h.2
    exact ⟨s, rfl, htext, h.1, hword⟩
  | sequence tag items => exact h.elim
  | mapping tag entries => exact h.elim

theorem Holds.text? {t : String} (h : node.Holds (.text t)) : node.text? = some t := by
  obtain ⟨s, rfl, htext, -⟩ := h.text
  rw [Node.text?, htext]

theorem nullableText?_of_untagged {s : Scalar} (htag : s.tag = none) :
    (scalar s).nullableText? =
      if s.style = .quoted then some (some s.text)
      else if s.text.isEmpty || Plain.isNull s.text then some none else some (some s.text) := by
  rw [nullableText?, htag]

/-- A text that may be null is read as it was written. -/
theorem Holds.nullableText?_text {t : String} (h : node.Holds (.text t)) :
    node.nullableText? = some (some t) := by
  obtain ⟨s, rfl, rfl, htag, hword⟩ := h.text
  rw [nullableText?_of_untagged htag]
  by_cases hquoted : s.style = .quoted
  · rw [if_pos hquoted]
  · have hplain := hword.resolve_left hquoted
    rw [if_neg hquoted, hplain]
    rfl

theorem Holds.nullableText?_null (h : node.Holds .null) : node.nullableText? = some none := by
  cases node with
  | scalar s =>
    obtain ⟨hplain, hword⟩ := Scalar.of_value?_null h.1 h.2
    rw [nullableText?_of_untagged h.1, hplain, hword]
    rfl
  | sequence tag items => exact h.elim
  | mapping tag entries => exact h.elim

/-! ### Lists -/

theorem Holds.array {values : List Json} (h : node.Holds (.array values)) :
    ∃ items, node = .sequence none items ∧ List.Forall₂ Holds items values := by
  cases node with
  | scalar s => exact (Scalar.isLeaf_of_value? h.2).elim
  | sequence tag items =>
    obtain ⟨rfl, hitems⟩ := h
    exact ⟨items, rfl, itemsHold_iff.mp hitems⟩
  | mapping tag entries => exact h.elim

theorem mapM_of_forall₂ {β γ : Type} {R : β → γ → Prop} {read : β → Option α} {write : α → γ}
    {items : List β} {xs : List α} (h : List.Forall₂ R items (xs.map write))
    (hread : ∀ x ∈ xs, ∀ item, R item (write x) → read item = some x) :
    items.mapM read = some xs := by
  induction xs generalizing items with
  | nil =>
    obtain rfl := List.forall₂_nil_right_iff.mp h
    rfl
  | cons x rest ih =>
    obtain ⟨item, later, hitem, hlater, rfl⟩ := List.forall₂_cons_right_iff.mp h
    have hfirst : read item = some x := hread x (List.mem_cons_self ..) item hitem
    have hrest : later.mapM read = some rest :=
      ih hlater fun y hy => hread y (List.mem_cons_of_mem _ hy)
    rw [List.mapM_cons, hfirst, hrest]
    rfl

theorem Holds.items? {read : Node → Option α} {write : α → Json} {xs : List α}
    (h : node.Holds (.array (xs.map write)))
    (hread : ∀ x ∈ xs, ∀ item : Node, item.Holds (write x) → read item = some x) :
    node.items? read = some xs := by
  obtain ⟨items, rfl, hitems⟩ := h.array
  exact mapM_of_forall₂ hitems hread

/-! ### Records -/

/-- Entries with names hold those of an object one by one. -/
def Filed (entries : List (String × Node)) (fields : Fields) : Prop :=
  List.Forall₂ (fun e f => e.1 = f.1 ∧ e.2.Holds f.2) entries fields

theorem Holds.object {fields : Fields} (h : node.Holds (.object fields)) :
    ∃ entries, node = .mapping none entries ∧
      List.Forall₂ (fun e f => e.1.Holds (.text f.1) ∧ e.2.Holds f.2) entries fields := by
  cases node with
  | scalar s => exact (Scalar.isLeaf_of_value? h.2).elim
  | sequence tag items => exact h.elim
  | mapping tag entries =>
    obtain ⟨rfl, hentries⟩ := h
    exact ⟨entries, rfl, entriesHold_iff.mp hentries⟩

theorem Holds.entries? {fields : Fields} (h : node.Holds (.object fields)) :
    ∃ entries, node.entries? = some entries ∧ Filed entries fields := by
  obtain ⟨entries, rfl, hentries⟩ := h.object
  rw [Node.entries?]
  induction hentries with
  | nil => exact ⟨[], rfl, .nil⟩
  | @cons e f entries fields hfirst _ ih =>
    obtain ⟨hkey, hvalue⟩ := hfirst
    have hrest : (Node.mapping none entries).Holds (.object fields) :=
      ⟨rfl, entriesHold_iff.mpr ‹_›⟩
    obtain ⟨named, hnamed, hfiled⟩ := ih hrest
    refine ⟨(f.1, e.2) :: named, ?_, .cons ⟨rfl, hvalue⟩ hfiled⟩
    rw [List.mapM_cons, hnamed, hkey.text?]
    rfl

namespace Filed

variable {entries : List (String × Node)} {fields : Fields}

theorem names (h : Filed entries fields) : entries.map Prod.fst = fields.map Prod.fst := by
  induction h with
  | nil => rfl
  | cons hfirst _ ih => rw [List.map_cons, List.map_cons, hfirst.1, ih]

theorem exists_holds (h : Filed entries fields) {e : String × Node} (he : e ∈ entries) :
    ∃ v, e.2.Holds v := by
  induction h with
  | nil => cases he
  | cons hfirst _ ih =>
    rcases List.mem_cons.mp he with rfl | he
    · exact ⟨_, hfirst.2⟩
    · exact ih he

/-- A part that was left out is not read. -/
theorem field?_of_notMem (h : Filed entries fields) {name : String}
    (hname : name ∉ fields.map Prod.fst) (read : Node → Option α) :
    field? entries name read = some none := by
  have hnone : entries.filter (·.1 == name) = [] := by
    rw [List.filter_eq_nil_iff]
    intro e he hkey
    obtain rfl := eq_of_beq hkey
    exact hname (h.names ▸ List.mem_map_of_mem he)
  rw [field?, hnone]

theorem exists_filter_eq (h : Filed entries fields) (hnodup : (fields.map Prod.fst).Nodup)
    {name : String} {v : Json} (hmem : (name, v) ∈ fields) :
    ∃ node : Node, entries.filter (·.1 == name) = [(name, node)] ∧ node.Holds v := by
  induction h with
  | nil => cases hmem
  | @cons e f entries fields hfirst hrest ih =>
    obtain ⟨key, node⟩ := e
    obtain ⟨other, value⟩ := f
    obtain ⟨rfl, hvalue⟩ : key = other ∧ node.Holds value := hfirst
    rw [List.map_cons, List.nodup_cons] at hnodup
    obtain ⟨hkey, hnodup⟩ := hnodup
    rcases List.mem_cons.mp hmem with heq | hmem
    · obtain ⟨rfl, rfl⟩ := Prod.mk.inj heq
      have hnone : entries.filter (·.1 == name) = [] := by
        rw [List.filter_eq_nil_iff]
        intro e he hsame
        obtain rfl := eq_of_beq hsame
        exact hkey (Filed.names hrest ▸ List.mem_map_of_mem he)
      exact ⟨node, by rw [List.filter_cons_of_pos (by simp), hnone], hvalue⟩
    · have hne : key ≠ name := by
        rintro rfl
        exact hkey (List.mem_map.mpr ⟨_, hmem, rfl⟩)
      obtain ⟨found, hfound, hholds⟩ := ih hnodup hmem
      exact ⟨found, by rw [List.filter_cons_of_neg (by simpa using hne), hfound], hholds⟩

/-- A part of a record is read where it was written. -/
theorem field?_of_mem (h : Filed entries fields) (hnodup : (fields.map Prod.fst).Nodup)
    {name : String} {v : Json} (hmem : (name, v) ∈ fields) {read : Node → Option α} {a : α}
    (hread : ∀ node : Node, node.Holds v → read node = some a) :
    field? entries name read = some (some a) := by
  obtain ⟨node, hnode, hholds⟩ := h.exists_filter_eq hnodup hmem
  rw [field?, hnode]
  simp only [hread node hholds, Option.map_some]

theorem admitOnly (h : Filed entries fields) {known : List String}
    (hknown : ∀ name ∈ fields.map Prod.fst, name ∈ known) :
    Node.admitOnly known entries = some () := by
  rw [Node.admitOnly, if_pos]
  rw [List.all_eq_true]
  intro e he
  exact List.contains_iff_mem.mpr (hknown e.1 (h.names ▸ List.mem_map_of_mem he))

end Filed

/-- What is read from a part of a record: nothing if there is no such part, and otherwise what is
read from the only one. -/
theorem field?_eq_some {entries : List (String × Node)} {name : String}
    {read : Node → Option α} {o : Option α} (h : field? entries name read = some o) :
    (o = none ∧ ∀ e ∈ entries, e.1 ≠ name) ∨
      ∃ node a, entries.filter (·.1 == name) = [(name, node)] ∧ read node = some a ∧
        o = some a := by
  rw [field?] at h
  cases hfilter : entries.filter (·.1 == name) with
  | nil =>
    rw [hfilter] at h
    obtain rfl := Option.some.inj h
    refine .inl ⟨rfl, fun e he hname => ?_⟩
    exact List.filter_eq_nil_iff.mp hfilter e he (beq_iff_eq.mpr hname)
  | cons e rest =>
    cases rest with
    | cons other rest =>
      rw [hfilter] at h
      cases h
    | nil =>
      rw [hfilter] at h
      obtain ⟨a, ha, rfl⟩ := Option.map_eq_some_iff.mp h
      have hmem : e ∈ entries.filter (·.1 == name) := by
        rw [hfilter]
        exact List.mem_singleton_self e
      have hname : e.1 = name := beq_iff_eq.mp (List.mem_filter.mp hmem).2
      exact .inr ⟨e.2, a, by rw [← hname], ha, rfl⟩

/-- A record gives a field a value: the only entry of this name says it, or there is no such entry
and the value is the default. -/
def Gives (entries : List (String × Node)) (name : String) (Says : α → Node → Prop)
    (default value : α) : Prop :=
  ((∀ e ∈ entries, e.1 ≠ name) ∧ value = default) ∨
    ∃ item, entries.filter (·.1 == name) = [(name, item)] ∧ Says value item

/-- What a field is given is what is read from its part, or the default if there is none. -/
theorem gives_iff {entries : List (String × Node)} {name : String} {read : Node → Option α}
    {Says : α → Node → Prop} (hread : ∀ value item, read item = some value ↔ Says value item)
    {default value : α} : Gives entries name Says default value ↔
      ∃ o, field? entries name read = some o ∧ o.getD default = value := by
  constructor
  · rintro (⟨habsent, rfl⟩ | ⟨item, hitem, hsays⟩)
    · have hnone : entries.filter (·.1 == name) = [] :=
        List.filter_eq_nil_iff.mpr fun e he hname => habsent e he (beq_iff_eq.mp hname)
      exact ⟨none, by rw [field?, hnone], rfl⟩
    · exact ⟨some value, by rw [field?, hitem]; simp only [(hread value item).mpr hsays,
        Option.map_some], rfl⟩
  · rintro ⟨o, hfield, rfl⟩
    rcases field?_eq_some hfield with ⟨rfl, habsent⟩ | ⟨item, a, hitem, ha, rfl⟩
    · exact .inl ⟨habsent, rfl⟩
    · exact .inr ⟨item, hitem, (hread a item).mp ha⟩

theorem admitOnly_eq_some_iff {names : List String} {entries : List (String × Node)} :
    Node.admitOnly names entries = some () ↔ ∀ e ∈ entries, e.1 ∈ names := by
  simp [Node.admitOnly]

/-- The items of a node: those of a sequence, and none where nothing is written at all. -/
inductive HasItems : Node → List Node → Prop where
  | sequence (tag : Option String) (items : List Node) : HasItems (.sequence tag items) items
  | void {s : Scalar} (h : s.isVoid = true) : HasItems (.scalar s) []

/-! ### Named values -/

theorem mapM_eq_some_iff {β γ : Type} {read : β → Option γ} {items : List β} {xs : List γ} :
    items.mapM read = some xs ↔ List.Forall₂ (fun item x => read item = some x) items xs := by
  induction items generalizing xs with
  | nil => cases xs <;> simp
  | cons item rest ih =>
    rw [List.mapM_cons]
    cases hitem : read item with
    | none => cases xs <;> simp [hitem]
    | some x =>
      cases hrest : rest.mapM read with
      | none =>
        have hno : ∀ ys, ¬ List.Forall₂ (fun item x => read item = some x) rest ys := by
          intro ys hys
          rw [ih.mpr hys] at hrest
          cases hrest
        cases xs <;> simp [hno]
      | some ys =>
        have hys := ih.mp hrest
        cases xs with
        | nil => simp
        | cons y zs =>
          have hzs : List.Forall₂ (fun item x => read item = some x) rest zs ↔ ys = zs := by
            rw [← ih, hrest, Option.some.injEq]
          simp [hitem, hzs]

theorem items?_eq_some_iff {read : Node → Option α} {xs : List α} : node.items? read = some xs ↔
    ∃ items, node.HasItems items ∧ List.Forall₂ (fun item x => read item = some x) items xs := by
  cases node with
  | sequence tag items =>
    rw [items?, mapM_eq_some_iff]
    constructor
    · exact fun h => ⟨items, .sequence tag items, h⟩
    · rintro ⟨_, ⟨⟩, h⟩
      exact h
  | scalar s =>
    rw [items?]
    constructor
    · intro h
      split_ifs at h with hvoid
      obtain rfl := Option.some.inj h
      exact ⟨[], .void hvoid, .nil⟩
    · rintro ⟨_, hitems, hread⟩
      cases hitems with
      | void hvoid =>
        cases hread
        rw [if_pos hvoid]
  | mapping tag entries =>
    rw [items?]
    constructor
    · intro h
      cases h
    · rintro ⟨_, ⟨⟩, -⟩

theorem exists_mapM_eq_some {β γ : Type} {read : β → Option γ} {items : List β}
    (h : ∀ item ∈ items, ∃ x, read item = some x) : ∃ xs, items.mapM read = some xs := by
  induction items with
  | nil => exact ⟨[], rfl⟩
  | cons item rest ih =>
    obtain ⟨x, hx⟩ := h item (List.mem_cons_self ..)
    obtain ⟨xs, hxs⟩ := ih fun other hother => h other (List.mem_cons_of_mem _ hother)
    refine ⟨x :: xs, ?_⟩
    rw [List.mapM_cons, hx, hxs]
    rfl

theorem exists_of_mapM_eq_some {β γ : Type} {read : β → Option γ} {items : List β} {xs : List γ}
    (h : items.mapM read = some xs) {item : β} (hitem : item ∈ items) :
    ∃ x ∈ xs, read item = some x := by
  induction mapM_eq_some_iff.mp h with
  | nil => cases hitem
  | cons hfirst hlater ih =>
    rcases List.mem_cons.mp hitem with rfl | hitem
    · exact ⟨_, List.mem_cons_self .., hfirst⟩
    · obtain ⟨x, hx, hread⟩ := ih (mapM_eq_some_iff.mpr hlater) hitem
      exact ⟨x, List.mem_cons_of_mem _ hx, hread⟩

theorem exists_item_of_mem {β γ : Type} {read : β → Option γ} {items : List β} {xs : List γ}
    (h : items.mapM read = some xs) {x : γ} (hx : x ∈ xs) :
    ∃ item ∈ items, read item = some x := by
  induction mapM_eq_some_iff.mp h with
  | nil => cases hx
  | cons hfirst hlater ih =>
    rcases List.mem_cons.mp hx with rfl | hx
    · exact ⟨_, List.mem_cons_self .., hfirst⟩
    · obtain ⟨item, hitem, hread⟩ := ih (mapM_eq_some_iff.mpr hlater) hx
      exact ⟨item, List.mem_cons_of_mem _ hitem, hread⟩

theorem exists_of_items? {read : Node → Option α} {xs : List α} (h : node.items? read = some xs)
    {x : α} (hx : x ∈ xs) : ∃ item, read item = some x := by
  cases node with
  | scalar s =>
    rw [items?] at h
    split_ifs at h
    obtain rfl := Option.some.inj h
    cases hx
  | sequence tag items =>
    obtain ⟨item, -, hread⟩ := exists_item_of_mem h hx
    exact ⟨item, hread⟩
  | mapping tag entries => cases h

theorem HasKey.mem_entries? {name : String} (h : node.HasKey name)
    {entries : List (String × Node)} (hentries : node.entries? = some entries) :
    name ∈ entries.map Prod.fst := by
  cases node with
  | mapping tag pairs =>
    obtain ⟨e, he, hkey⟩ := h
    obtain ⟨found, hfound, hread⟩ := exists_of_mapM_eq_some hentries he
    rw [hkey] at hread
    obtain rfl := Option.some.inj hread
    exact List.mem_map.mpr ⟨_, hfound, rfl⟩
  | scalar s => exact h.elim
  | sequence tag items => exact h.elim

/-- A mapping lists named values: in the order in which the names first appear, each name with
what is read from its last entry. -/
structure Lists (read : Node → Option α) (entries : List (String × Node))
    (xs : List (String × α)) : Prop where
  names : xs.map Prod.fst = (entries.map Prod.fst).eraseDups
  nodup : (xs.map Prod.fst).Nodup
  values : ∀ name node, entries.reverse.lookup name = some node →
    ∃ a, read node = some a ∧ (name, a) ∈ xs

/-- Each of the values was read from an entry with its name. -/
theorem Lists.exists_of_mem {read : Node → Option α} {entries : List (String × Node)}
    {xs : List (String × α)} (h : Lists read entries xs) {x : String × α} (hx : x ∈ xs) :
    ∃ node, (x.1, node) ∈ entries ∧ read node = some x.2 := by
  have hname : x.1 ∈ entries.map Prod.fst := by
    rw [← List.mem_eraseDups, ← h.names]
    exact List.mem_map_of_mem hx
  -- The name is there, so it has a last entry; as names are distinct, its value is this one.
  cases hnode : entries.reverse.lookup x.1 with
  | none =>
    obtain ⟨e, he, heq⟩ := List.mem_map.mp hname
    have hne := List.lookup_eq_none_iff.mp hnode e (List.mem_reverse.mpr he)
    simp [heq] at hne
  | some node =>
    obtain ⟨a, ha, hmem⟩ := h.values x.1 node hnode
    have hsame : (x.1, a) = x := List.inj_on_of_nodup_map h.nodup hmem hx rfl
    have hvalue : a = x.2 := congrArg Prod.snd hsame
    exact ⟨node, List.mem_reverse.mp (mem_of_lookup hnode), hvalue ▸ ha⟩

theorem lookup_of_read {read : Node → Option α} {entries : List (String × Node)}
    {pairs : List (String × α)}
    (h : List.Forall₂ (fun e x => e.1 = x.1 ∧ read e.2 = some x.2) entries pairs)
    {name : String} {node : Node} (hnode : entries.lookup name = some node) :
    ∃ a, read node = some a ∧ pairs.lookup name = some a := by
  induction h with
  | nil => cases hnode
  | @cons e x entries pairs hfirst _ ih =>
    obtain ⟨key, item⟩ := e
    obtain ⟨other, a⟩ := x
    obtain ⟨rfl, hread⟩ : key = other ∧ read item = some a := hfirst
    rw [lookup_cons_ite] at hnode
    rw [lookup_cons_ite]
    by_cases hkey : name = key
    · rw [if_pos hkey] at hnode
      rw [if_pos hkey]
      exact ⟨a, Option.some.inj hnode ▸ hread, rfl⟩
    · rw [if_neg hkey] at hnode
      rw [if_neg hkey]
      exact ih hnode

theorem lists_putAll {read : Node → Option α} {entries : List (String × Node)}
    {pairs : List (String × α)}
    (h : List.Forall₂ (fun e x => e.1 = x.1 ∧ read e.2 = some x.2) entries pairs) :
    Lists read entries (putAll [] pairs) where
  names := by
    have hnames : entries.map Prod.fst = pairs.map Prod.fst := by
      induction h with
      | nil => rfl
      | cons hfirst _ ih => rw [List.map_cons, List.map_cons, hfirst.1, ih]
    rw [map_fst_putAll, hnames]
    simp
  nodup := by
    have hnil : (([] : List (String × α)).map Prod.fst).Nodup := List.nodup_nil
    exact nodup_putAll hnil pairs
  values name node hnode := by
    obtain ⟨a, hread, ha⟩ := lookup_of_read (List.forall₂_reverse_iff.mpr h) hnode
    refine ⟨a, hread, mem_of_lookup ?_⟩
    rw [lookup_putAll, ha]
    rfl

/-- Reads the value of an entry. -/
def readNamed? (read : Node → Option α) (e : String × Node) : Option (String × α) := do
  return (e.1, ← read e.2)

theorem readNamed?_eq_some_iff {read : Node → Option α} {e : String × Node} {x : String × α} :
    readNamed? read e = some x ↔ e.1 = x.1 ∧ read e.2 = some x.2 := by
  obtain ⟨name, a⟩ := x
  cases hread : read e.2 with
  | none => simp [readNamed?, hread]
  | some b => simp [readNamed?, hread]

theorem named?_eq {read : Node → Option α} {entries : List (String × Node)}
    (h : node.entries? = some entries) :
    node.named? read = (entries.mapM (readNamed? read)).map (putAll []) := by
  have hbind : node.named? read =
      (entries.mapM (readNamed? read)).bind fun pairs => some (putAll [] pairs) := by
    rw [named?, h]
    rfl
  rw [hbind, Option.map_eq_bind]
  rfl

theorem named?_eq_some {read : Node → Option α} {xs : List (String × α)}
    (h : node.named? read = some xs) : ∃ entries, node.entries? = some entries ∧
      (∀ e ∈ entries, ∃ a, read e.2 = some a) ∧ Lists read entries xs := by
  cases hentries : node.entries? with
  | none =>
    rw [named?, hentries] at h
    cases h
  | some entries =>
    rw [named?_eq hentries, Option.map_eq_some_iff] at h
    obtain ⟨pairs, hpairs, rfl⟩ := h
    have hread : ∀ e ∈ entries, ∃ a, read e.2 = some a := by
      intro e he
      obtain ⟨x, -, hx⟩ := exists_of_mapM_eq_some hpairs he
      exact ⟨x.2, (readNamed?_eq_some_iff.mp hx).2⟩
    simp only [mapM_eq_some_iff, readNamed?_eq_some_iff] at hpairs
    exact ⟨entries, rfl, hread, lists_putAll hpairs⟩

theorem exists_named? {read : Node → Option α} {entries : List (String × Node)}
    (h : node.entries? = some entries) (hread : ∀ e ∈ entries, ∃ a, read e.2 = some a) :
    ∃ xs, node.named? read = some xs := by
  obtain ⟨pairs, hpairs⟩ : ∃ pairs, entries.mapM (readNamed? read) = some pairs := by
    refine exists_mapM_eq_some fun e he => ?_
    obtain ⟨a, ha⟩ := hread e he
    exact ⟨(e.1, a), readNamed?_eq_some_iff.mpr ⟨rfl, ha⟩⟩
  exact ⟨putAll [] pairs, by rw [named?_eq h, hpairs, Option.map_some]⟩

/-- Values under distinct names are read in the order in which they were written. -/
theorem Holds.named? {read : Node → Option α} (write : α → Json) {xs : List (String × α)}
    (h : node.Holds (.object (xs.map fun e => (e.1, write e.2))))
    (hnodup : (xs.map Prod.fst).Nodup)
    (hread : ∀ x ∈ xs, ∀ item : Node, item.Holds (write x.2) → read item = some x.2) :
    node.named? read = some xs := by
  obtain ⟨entries, hentries, hfiled⟩ := h.entries?
  have hvalues : entries.mapM (readNamed? read) = some xs := by
    refine mapM_of_forall₂ hfiled ?_
    rintro x hx ⟨name, item⟩ ⟨rfl, hitem⟩
    exact readNamed?_eq_some_iff.mpr ⟨rfl, hread x hx item hitem⟩
  rw [named?_eq hentries, hvalues, Option.map_some, putAll_nil_of_nodup hnodup]

end Node

/-! ## Values of any kind -/

/-- A document that can stand where any value may: its floating point numbers are finite, and the
keys of its objects ascend. -/
inductive Canonical : Json → Prop where
  | null : Canonical .null
  | bool (b : Bool) : Canonical (.bool b)
  | int (n : Int) : Canonical (.int n)
  | float {x : Float} (finite : x.isFinite = true) : Canonical (.float x)
  | text (t : String) : Canonical (.text t)
  | array {values : List Json} (each : ∀ v ∈ values, Canonical v) : Canonical (.array values)
  | object {fields : Fields} (ascending : Fields.Ascending fields)
    (each : ∀ e ∈ fields, Canonical e.2) : Canonical (.object fields)

theorem canonical_finite {v : Json} (h : IsLeaf v) : Canonical (Node.finite v) := by
  cases v with
  | null => exact .null
  | bool b => exact .bool b
  | int n => exact .int n
  | text t => exact .text t
  | float x =>
    rw [Node.finite]
    split_ifs with hfinite
    · exact .float hfinite
    · exact .null
  | array values => exact h.elim
  | object fields => exact h.elim

theorem canonical_ofPairs {pairs : Fields} (h : ∀ e ∈ pairs, Canonical e.2) :
    Canonical (.object (Fields.ofPairs pairs)) := by
  -- The induction needs any canonical object to start from, not only the empty one.
  have hall : ∀ fields : Fields, Canonical (.object fields) →
      Canonical (.object (Fields.insertAll fields pairs)) := by
    induction pairs with
    | nil => exact fun _ hfields => hfields
    | cons e rest ih =>
      intro fields hfields
      refine ih (fun x hx => h x (List.mem_cons_of_mem _ hx)) _ ?_
      cases hfields with
      | object ascending each =>
        refine .object (ascending.insert e.1 e.2) ?_
        intro x hx
        rcases Fields.mem_insert hx with rfl | hx
        · exact h e (List.mem_cons_self ..)
        · exact each x hx
  exact hall [] (.object List.Pairwise.nil (by simp))

namespace Node

theorem admitsTag_none : admitsTag none = true := rfl

mutual

/-- Whatever stands for a value stands for a canonical one. -/
theorem canonical_of_value? : ∀ (node : Node) {v : Json}, node.value? = some v → Canonical v
  | .scalar s, v, h => by
    rw [value?, Option.map_eq_some_iff] at h
    obtain ⟨w, hw, rfl⟩ := h
    exact canonical_finite (Scalar.isLeaf_of_value? hw)
  | .sequence tag items, v, h => by
    rw [value?] at h
    split_ifs at h
    obtain ⟨values, hvalues, rfl⟩ := Option.map_eq_some_iff.mp h
    exact .array (canonical_of_itemValues? items hvalues)
  | .mapping tag entries, v, h => by
    rw [value?] at h
    split_ifs at h
    obtain ⟨fields, hfields, rfl⟩ := Option.map_eq_some_iff.mp h
    exact canonical_ofPairs (canonical_of_entryValues? entries hfields)

theorem canonical_of_itemValues? : ∀ (items : List Node) {values : List Json},
    itemValues? items = some values → ∀ v ∈ values, Canonical v
  | [], values, h => by
    obtain rfl := Option.some.inj h
    simp
  | item :: rest, values, h => by
    rw [itemValues?] at h
    obtain ⟨first, hfirst, h⟩ := Option.bind_eq_some_iff.mp h
    obtain ⟨later, hlater, h⟩ := Option.bind_eq_some_iff.mp h
    obtain rfl := Option.some.inj h
    intro v hv
    rcases List.mem_cons.mp hv with rfl | hv
    · exact canonical_of_value? item hfirst
    · exact canonical_of_itemValues? rest hlater v hv

theorem canonical_of_entryValues? : ∀ (entries : List (Node × Node)) {fields : Fields},
    entryValues? entries = some fields → ∀ e ∈ fields, Canonical e.2
  | [], fields, h => by
    obtain rfl := Option.some.inj h
    simp
  | (key, node) :: rest, fields, h => by
    rw [entryValues?] at h
    obtain ⟨name, -, h⟩ := Option.bind_eq_some_iff.mp h
    obtain ⟨value, hvalue, h⟩ := Option.bind_eq_some_iff.mp h
    obtain ⟨later, hlater, h⟩ := Option.bind_eq_some_iff.mp h
    obtain rfl := Option.some.inj h
    intro e he
    rcases List.mem_cons.mp he with rfl | he
    · exact canonical_of_value? node hvalue
    · exact canonical_of_entryValues? rest hlater e he

end

mutual

theorem value?_of_holds : ∀ (node : Node) {v : Json}, node.Holds v → Canonical v →
    node.value? = some v
  | .scalar s, v, h, hv => by
    have hfinite : Node.finite v = v := by
      cases hv with
      | float finite => rw [Node.finite, if_pos finite]
      | _ => rfl
    rw [value?, h.2, Option.map_some, hfinite]
  | .sequence tag items, .array values, h, hv => by
    obtain ⟨rfl, hitems⟩ := h
    cases hv with
    | array each =>
      rw [value?, if_pos admitsTag_none, itemValues?_of_hold items hitems each,
        Option.map_some]
  | .mapping tag entries, .object fields, h, hv => by
    obtain ⟨rfl, hentries⟩ := h
    cases hv with
    | object ascending each =>
      rw [value?, if_pos admitsTag_none, entryValues?_of_hold entries hentries each,
        Option.map_some, Fields.ofPairs_of_ascending ascending]

theorem itemValues?_of_hold : ∀ (items : List Node) {values : List Json},
    ItemsHold items values → (∀ v ∈ values, Canonical v) → itemValues? items = some values
  | [], [], _, _ => rfl
  | item :: rest, v :: values, h, hv => by
    rw [itemValues?, value?_of_holds item h.1 (hv v (List.mem_cons_self ..)),
      itemValues?_of_hold rest h.2 fun w hw => hv w (List.mem_cons_of_mem _ hw)]
    rfl

theorem entryValues?_of_hold : ∀ (entries : List (Node × Node)) {fields : Fields},
    EntriesHold entries fields → (∀ e ∈ fields, Canonical e.2) →
      entryValues? entries = some fields
  | [], [], _, _ => rfl
  | (key, node) :: rest, (name, v) :: fields, h, hv => by
    rw [entryValues?, h.1.1.text?,
      value?_of_holds node h.1.2 (hv (name, v) (List.mem_cons_self ..)),
      entryValues?_of_hold rest h.2 fun e he => hv e (List.mem_cons_of_mem _ he)]
    rfl

end

theorem canonical_of_fields? {node : Node} {fields : Fields} (h : node.fields? = some fields) :
    Canonical (.object fields) := by
  cases node with
  | scalar s =>
    rw [fields?] at h
    split_ifs at h
    obtain rfl := Option.some.inj h
    exact .object List.Pairwise.nil (by simp)
  | sequence tag items => cases h
  | mapping tag entries =>
    obtain ⟨pairs, hpairs, rfl⟩ := Option.map_eq_some_iff.mp h
    exact canonical_ofPairs (canonical_of_entryValues? entries hpairs)

theorem Holds.fields? {node : Node} {fields : Fields} (h : node.Holds (.object fields))
    (hfields : Canonical (.object fields)) : node.fields? = some fields := by
  obtain ⟨entries, rfl, hentries⟩ := h.object
  cases hfields with
  | object ascending each =>
    rw [Node.fields?, entryValues?_of_hold entries (entriesHold_iff.mpr hentries) each,
      Option.map_some, Fields.ofPairs_of_ascending ascending]

end Node

end ActivityFlow.Yaml
