import ActivityFlow.Loading
import ActivityFlow.Proofs.Yaml.Holding

/-!
# Workflow files

A workflow file names workflows or holds a single one. The first way is tried first, and no
document that names workflows is taken for a single one, whatever is wrong with it. What was read
can be written down as named workflows and is read again as it was.
-/
namespace ActivityFlow

open Yaml

/-! ## Steps -/

namespace Step

/-- Entries say a step: its activity, and those of its other fields that they do not leave out. -/
structure FiledIn (step : Step) (entries : List (String × Node)) : Prop where
  known : ∀ e ∈ entries, e.1 ∈ ["name", "params", "import", "output"]
  activity : ∃ item, entries.filter (·.1 == "name") = [("name", item)] ∧
    item.text? = some step.activity
  params : Node.Gives entries "params" (fun params item => item.fields? = some params) []
    step.params
  imports : Node.Gives entries "import" (fun names item => item.items? Node.text? = some names) []
    step.imports
  output : Node.Gives entries "output" (fun name item => item.nullableText? = some name) none
    step.output

/-- A node says a step. -/
def SaidBy (step : Step) (node : Node) : Prop :=
  ∃ entries, node.entries? = some entries ∧ step.FiledIn entries

theorem ofNode?_eq_some_iff {node : Node} {step : Step} :
    ofNode? node = some step ↔ step.SaidBy node := by
  have hjoin (o : Option (Option String)) : o.getD none = o.join := by cases o <;> rfl
  simp only [ofNode?, Option.bind_eq_bind, Option.bind_eq_some_iff, Option.pure_def,
    Option.some.injEq, SaidBy]
  constructor
  · rintro ⟨entries, hentries, ⟨⟩, hadmit, o, hname, params, hparams, imports, himports, output,
      houtput, activity, rfl, rfl⟩
    refine ⟨entries, hentries, Node.admitOnly_eq_some_iff.mp hadmit, ?_, ?_, ?_, ?_⟩
    · rcases Node.field?_eq_some hname with ⟨⟨⟩, -⟩ | ⟨item, _, hitem, hread, ⟨⟩⟩
      exact ⟨item, hitem, hread⟩
    · exact (Node.gives_iff fun _ _ => Iff.rfl).mpr ⟨params, hparams, rfl⟩
    · exact (Node.gives_iff fun _ _ => Iff.rfl).mpr ⟨imports, himports, rfl⟩
    · exact (Node.gives_iff fun _ _ => Iff.rfl).mpr ⟨output, houtput, hjoin output⟩
  · rintro ⟨entries, hentries, hknown, ⟨item, hitem, hactivity⟩, hparams, himports, houtput⟩
    obtain ⟨params, hparams, hsome⟩ := (Node.gives_iff fun _ _ => Iff.rfl).mp hparams
    obtain ⟨imports, himports, hlisted⟩ := (Node.gives_iff fun _ _ => Iff.rfl).mp himports
    obtain ⟨output, houtput, hkept⟩ := (Node.gives_iff fun _ _ => Iff.rfl).mp houtput
    have hname : Node.field? entries "name" Node.text? = some (some step.activity) := by
      rw [Node.field?, hitem]
      simp only [hactivity, Option.map_some]
    refine ⟨entries, hentries, (), Node.admitOnly_eq_some_iff.mpr hknown, _, hname, _, hparams, _,
      himports, _, houtput, _, rfl, ?_⟩
    rw [hsome, hlisted, ← hjoin output, hkept]

def writtenFields (step : Step) : Fields :=
  [("name", .text step.activity), ("params", .object step.params),
    ("import", .array (step.imports.map .text)), ("output", step.output.elim .null .text)]

def written (step : Step) : Json := .object step.writtenFields

theorem canonical_of_ofNode? {node : Node} {step : Step} (h : ofNode? node = some step) :
    Canonical (.object step.params) := by
  simp only [ofNode?, Option.bind_eq_bind, Option.bind_eq_some_iff, Option.pure_def,
    Option.some.injEq] at h
  obtain ⟨entries, -, -, -, -, -, params, hparams, _, -, _, -, _, -, rfl⟩ := h
  rcases Node.field?_eq_some hparams with ⟨rfl, -⟩ | ⟨_, fields, -, hfields, rfl⟩
  · exact .object List.Pairwise.nil (by simp)
  · exact Node.canonical_of_fields? hfields

theorem ofNode?_of_holds {step : Step} (hparams : Canonical (.object step.params)) {node : Node}
    (h : node.Holds step.written) : ofNode? node = some step := by
  obtain ⟨entries, hentries, hfiled⟩ := Node.Holds.entries? h
  have hnodup : (step.writtenFields.map Prod.fst).Nodup := by simp [writtenFields]
  have hadmit : Node.admitOnly ["name", "params", "import", "output"] entries = some () :=
    hfiled.admitOnly (by simp [writtenFields])
  have hactivity : Node.field? entries "name" Node.text? = some (some step.activity) :=
    hfiled.field?_of_mem hnodup (by simp [writtenFields]) fun item hitem => hitem.text?
  have hfields : Node.field? entries "params" Node.fields? = some (some step.params) :=
    hfiled.field?_of_mem hnodup (by simp [writtenFields]) fun item hitem => hitem.fields? hparams
  have himports : Node.field? entries "import" (Node.items? Node.text?) =
      some (some step.imports) :=
    hfiled.field?_of_mem hnodup (by simp [writtenFields]) fun item hitem =>
      hitem.items? fun text _ part hpart => hpart.text?
  have hnullable : ∀ item : Node, item.Holds (step.output.elim .null .text) →
      item.nullableText? = some step.output := by
    intro item hitem
    cases houtput : step.output with
    | none =>
      rw [houtput] at hitem
      exact Node.Holds.nullableText?_null hitem
    | some name =>
      rw [houtput] at hitem
      exact Node.Holds.nullableText?_text hitem
  have houtput : Node.field? entries "output" Node.nullableText? = some (some step.output) :=
    hfiled.field?_of_mem hnodup (by simp [writtenFields]) hnullable
  rw [ofNode?, hentries]
  simp only [Option.bind_eq_bind, Option.bind_some, hadmit, hactivity, hfields, himports, houtput]
  rfl

end Step

/-! ## Workflows -/

namespace Workflow

/-- Entries say a workflow: its name, its steps one by one, and its variables, as far as they do
not leave them out. -/
structure FiledIn (w : Workflow) (entries : List (String × Node)) : Prop where
  known : ∀ e ∈ entries, e.1 ∈ ["name", "activities", "vars"]
  name : Node.Gives entries "name" (fun name item => item.text? = some name) "" w.name
  steps : Node.Gives entries "activities" (fun steps item => ∃ items, item.HasItems items ∧
    List.Forall₂ (fun item step => step.SaidBy item) items steps) [] w.steps
  vars : Node.Gives entries "vars" (fun vars item => item.fields? = some vars) [] w.vars

/-- A node says a workflow. -/
def SaidBy (w : Workflow) (node : Node) : Prop :=
  ∃ entries, node.entries? = some entries ∧ w.FiledIn entries

theorem items?_eq_some_iff {node : Node} {steps : List Step} :
    node.items? Step.ofNode? = some steps ↔ ∃ items, node.HasItems items ∧
      List.Forall₂ (fun item step => step.SaidBy item) items steps := by
  simp only [Node.items?_eq_some_iff, Step.ofNode?_eq_some_iff]

theorem ofNode?_eq_some_iff {node : Node} {w : Workflow} :
    ofNode? node = some w ↔ w.SaidBy node := by
  simp only [ofNode?, Option.bind_eq_bind, Option.bind_eq_some_iff, Option.pure_def,
    Option.some.injEq, SaidBy]
  constructor
  · rintro ⟨entries, hentries, ⟨⟩, hadmit, name, hname, steps, hsteps, vars, hvars, rfl⟩
    exact ⟨entries, hentries, Node.admitOnly_eq_some_iff.mp hadmit,
      (Node.gives_iff fun _ _ => Iff.rfl).mpr ⟨name, hname, rfl⟩,
      (Node.gives_iff fun _ _ => items?_eq_some_iff).mpr ⟨steps, hsteps, rfl⟩,
      (Node.gives_iff fun _ _ => Iff.rfl).mpr ⟨vars, hvars, rfl⟩⟩
  · rintro ⟨entries, hentries, hknown, hname, hsteps, hvars⟩
    obtain ⟨name, hname, hnamed⟩ := (Node.gives_iff fun _ _ => Iff.rfl).mp hname
    obtain ⟨steps, hsteps, hlisted⟩ := (Node.gives_iff fun _ _ => items?_eq_some_iff).mp hsteps
    obtain ⟨vars, hvars, hset⟩ := (Node.gives_iff fun _ _ => Iff.rfl).mp hvars
    refine ⟨entries, hentries, (), Node.admitOnly_eq_some_iff.mpr hknown, name, hname, steps,
      hsteps, vars, hvars, ?_⟩
    rw [hnamed, hlisted, hset]

def writtenFields (w : Workflow) : Fields :=
  [("name", .text w.name), ("activities", .array (w.steps.map Step.written)),
    ("vars", .object w.vars)]

def written (w : Workflow) : Json := .object w.writtenFields

/-- The values of a workflow can stand in any document. -/
structure Portable (w : Workflow) : Prop where
  steps : ∀ step ∈ w.steps, Canonical (.object step.params)
  vars : Canonical (.object w.vars)

theorem portable_of_ofNode? {node : Node} {w : Workflow} (h : ofNode? node = some w) :
    w.Portable := by
  simp only [ofNode?, Option.bind_eq_bind, Option.bind_eq_some_iff, Option.pure_def,
    Option.some.injEq] at h
  obtain ⟨entries, -, -, -, _, -, steps, hsteps, vars, hvars, rfl⟩ := h
  constructor
  · rcases Node.field?_eq_some hsteps with ⟨rfl, -⟩ | ⟨_, listed, -, hlisted, rfl⟩
    · simp
    · intro step hstep
      obtain ⟨item, hitem⟩ := Node.exists_of_items? hlisted hstep
      exact Step.canonical_of_ofNode? hitem
  · rcases Node.field?_eq_some hvars with ⟨rfl, -⟩ | ⟨_, fields, -, hfields, rfl⟩
    · exact .object List.Pairwise.nil (by simp)
    · exact Node.canonical_of_fields? hfields

theorem ofNode?_of_holds {w : Workflow} (hw : w.Portable) {node : Node}
    (h : node.Holds w.written) : ofNode? node = some w := by
  obtain ⟨entries, hentries, hfiled⟩ := Node.Holds.entries? h
  have hnodup : (w.writtenFields.map Prod.fst).Nodup := by simp [writtenFields]
  have hadmit : Node.admitOnly ["name", "activities", "vars"] entries = some () :=
    hfiled.admitOnly (by simp [writtenFields])
  have hname : Node.field? entries "name" Node.text? = some (some w.name) :=
    hfiled.field?_of_mem hnodup (by simp [writtenFields]) fun item hitem => hitem.text?
  have hsteps : Node.field? entries "activities" (Node.items? Step.ofNode?) =
      some (some w.steps) :=
    hfiled.field?_of_mem hnodup (by simp [writtenFields]) fun item hitem =>
      hitem.items? fun step hstep part hpart => Step.ofNode?_of_holds (hw.steps step hstep) hpart
  have hvars : Node.field? entries "vars" Node.fields? = some (some w.vars) :=
    hfiled.field?_of_mem hnodup (by simp [writtenFields]) fun item hitem => hitem.fields? hw.vars
  rw [ofNode?, hentries]
  simp only [Option.bind_eq_bind, Option.bind_some, hadmit, hname, hsteps, hvars]
  rfl

/-- A single workflow has no entry `workflows`. -/
theorem not_saidBy_of_hasKey {node : Node} (h : node.HasKey "workflows") (w : Workflow) :
    ¬ w.SaidBy node := by
  rintro ⟨entries, hentries, hfiled⟩
  obtain ⟨e, he, hkey⟩ := List.mem_map.mp (h.mem_entries? hentries)
  have hknown := hfiled.known e he
  simp [hkey] at hknown

theorem nameOr_eq (w : Workflow) (name : String) :
    w.nameOr name = { w with name := if w.name = "" then name else w.name } := by
  by_cases h : w.name = ""
  · rw [nameOr, if_pos (by simp [h]), if_pos h]
  · rw [nameOr, if_neg (by simpa using h), if_neg h]

end Workflow

/-! ## Bundles -/

namespace Bundle

/-- A text names workflows: its only entry `workflows` has the given entries, each of which says a
workflow. -/
def NamedBy (text : String) (nodes : List (String × Node)) : Prop :=
  ∃ node entries inner, document? (· == "workflows") text = some node ∧
    node.entries? = some entries ∧
    entries.filter (·.1 == "workflows") = [("workflows", inner)] ∧
    inner.entries? = some nodes ∧ ∀ e ∈ nodes, ∃ w : Workflow, w.SaidBy e.2

/-- A text is a single workflow. -/
def IsSingle (text : String) (w : Workflow) : Prop :=
  ∃ node, document? (fun _ => true) text = some node ∧ w.SaidBy node

/-- A bundle gathers workflows from entries: in the order in which the names first appear, under
each name the workflow of its last entry, which gets this name if it has none of its own. -/
structure GatheredFrom (bundle : Bundle) (nodes : List (String × Node)) : Prop where
  names : bundle.map Prod.fst = (nodes.map Prod.fst).eraseDups
  workflows : ∀ name node, nodes.reverse.lookup name = some node →
    ∃ w : Workflow, w.SaidBy node ∧
      (name, { w with name := if w.name = "" then name else w.name }) ∈ bundle

/-- Bundles as they are read: the names are distinct, only a workflow under the empty name is
without a name, and the values of workflows can stand in any document. -/
structure Settled (bundle : Bundle) : Prop where
  distinct : (bundle.map Prod.fst).Nodup
  named : ∀ e ∈ bundle, e.2.name = "" → e.1 = ""
  portable : ∀ e ∈ bundle, e.2.Portable

/-- Gives names to the workflows that have none. -/
def nameEach (bundle : Bundle) : Bundle := bundle.map fun e => (e.1, e.2.nameOr e.1)

theorem map_fst_nameEach (bundle : Bundle) :
    bundle.nameEach.map Prod.fst = bundle.map Prod.fst := by
  rw [nameEach, List.map_map]
  rfl

theorem ofNode?_eq_some_iff {node : Node} {bundle : Bundle} :
    ofNode? node = some bundle ↔ ∃ entries inner listed, node.entries? = some entries ∧
      entries.filter (·.1 == "workflows") = [("workflows", inner)] ∧
      inner.named? Workflow.ofNode? = some listed ∧ bundle = nameEach listed := by
  simp only [ofNode?, Option.bind_eq_bind, Option.bind_eq_some_iff, Option.pure_def,
    Option.some.injEq]
  constructor
  · rintro ⟨entries, hentries, o, hfield, listed, rfl, rfl⟩
    rcases Node.field?_eq_some hfield with ⟨hnone, -⟩ | ⟨inner, a, hinner, hnamed, hsome⟩
    · cases hnone
    · obtain rfl := Option.some.inj hsome
      exact ⟨entries, inner, listed, hentries, hinner, hnamed, rfl⟩
  · rintro ⟨entries, inner, listed, hentries, hinner, hnamed, rfl⟩
    refine ⟨entries, hentries, some listed, ?_, listed, rfl, rfl⟩
    rw [Node.field?, hinner]
    simp only [hnamed, Option.map_some]

theorem settled_of_ofNode? {node : Node} {bundle : Bundle} (h : ofNode? node = some bundle) :
    bundle.Settled := by
  obtain ⟨_, inner, listed, -, -, hnamed, rfl⟩ := ofNode?_eq_some_iff.mp h
  obtain ⟨nodes, -, -, hlists⟩ := Node.named?_eq_some hnamed
  refine ⟨by rw [map_fst_nameEach]; exact hlists.nodup, ?_, ?_⟩
  · intro e he hempty
    obtain ⟨x, -, rfl⟩ := List.mem_map.mp he
    simp only [Workflow.nameOr_eq] at hempty
    split_ifs at hempty with hname
    · exact hempty
    · exact absurd hempty hname
  · intro e he
    obtain ⟨x, hx, rfl⟩ := List.mem_map.mp he
    obtain ⟨item, -, hitem⟩ := hlists.exists_of_mem hx
    obtain ⟨hsteps, hvars⟩ := Workflow.portable_of_ofNode? hitem
    rw [Workflow.nameOr_eq]
    exact ⟨hsteps, hvars⟩

theorem single_eq (w : Workflow) : single w =
    let name := if w.name = "" then "default" else w.name
    [(name, { w with name })] := by
  rw [single, Workflow.nameOr_eq]
  rfl

theorem settled_single {w : Workflow} (h : w.Portable) : (single w).Settled := by
  rw [single_eq]
  refine ⟨List.nodup_singleton _, ?_, ?_⟩
  · intro e he hempty
    obtain rfl := List.mem_singleton.mp he
    exact hempty
  · intro e he
    obtain rfl := List.mem_singleton.mp he
    exact ⟨h.steps, h.vars⟩

theorem parse?_eq (text : String) :
    parse? text = ((document? (· == "workflows") text).bind ofNode?).or
      (((document? (fun _ => true) text).bind Workflow.ofNode?).map single) := by
  rw [parse?, document?, document?]
  cases serial? text <;> rfl

/-- Named workflows are gathered. -/
theorem exists_gatheredFrom {text : String} {nodes : List (String × Node)}
    (h : NamedBy text nodes) : ∃ bundle : Bundle,
      (document? (· == "workflows") text).bind ofNode? = some bundle ∧
        bundle.GatheredFrom nodes := by
  obtain ⟨node, entries, inner, hnode, hentries, hinner, hnodes, hread⟩ := h
  simp only [← Workflow.ofNode?_eq_some_iff] at hread
  obtain ⟨listed, hnamed⟩ := Node.exists_named? hnodes hread
  obtain ⟨nodes', hnodes', -, hlists⟩ := Node.named?_eq_some hnamed
  obtain rfl : nodes = nodes' := Option.some.inj (hnodes.symm.trans hnodes')
  have hbundle : ofNode? node = some (nameEach listed) :=
    ofNode?_eq_some_iff.mpr ⟨entries, inner, listed, hentries, hinner, hnamed, rfl⟩
  refine ⟨nameEach listed, Option.bind_eq_some_iff.mpr ⟨node, hnode, hbundle⟩, ?_, ?_⟩
  · rw [map_fst_nameEach]
    exact hlists.names
  · intro name item hitem
    obtain ⟨w, hw, hmem⟩ := hlists.values name item hitem
    exact ⟨w, Workflow.ofNode?_eq_some_iff.mp hw,
      List.mem_map.mpr ⟨(name, w), hmem, by rw [Workflow.nameOr_eq]⟩⟩

theorem exists_namedBy {text : String} {bundle : Bundle}
    (h : (document? (· == "workflows") text).bind ofNode? = some bundle) :
    ∃ nodes, NamedBy text nodes := by
  obtain ⟨node, hnode, hbundle⟩ := Option.bind_eq_some_iff.mp h
  obtain ⟨entries, inner, listed, hentries, hinner, hnamed, -⟩ := ofNode?_eq_some_iff.mp hbundle
  obtain ⟨nodes, hnodes, hread, -⟩ := Node.named?_eq_some hnamed
  simp only [Workflow.ofNode?_eq_some_iff] at hread
  exact ⟨nodes, node, entries, inner, hnode, hentries, hinner, hnodes, hread⟩

/-- A text names no workflows just if it is not read in the first way. -/
theorem not_namedBy_iff {text : String} :
    (∀ nodes, ¬ NamedBy text nodes) ↔
      (document? (· == "workflows") text).bind ofNode? = none := by
  constructor
  · intro h
    rw [Option.eq_none_iff_forall_ne_some]
    intro bundle hbundle
    obtain ⟨nodes, hnodes⟩ := exists_namedBy hbundle
    exact h nodes hnodes
  · intro h nodes hnodes
    obtain ⟨bundle, hbundle, -⟩ := exists_gatheredFrom hnodes
    rw [h] at hbundle
    cases hbundle

theorem isSingle_iff {text : String} {w : Workflow} :
    IsSingle text w ↔ (document? (fun _ => true) text).bind Workflow.ofNode? = some w := by
  simp only [Option.bind_eq_some_iff, IsSingle, Workflow.ofNode?_eq_some_iff]

theorem not_isSingle_iff {text : String} :
    (∀ w, ¬ IsSingle text w) ↔
      (document? (fun _ => true) text).bind Workflow.ofNode? = none := by
  rw [Option.eq_none_iff_forall_ne_some]
  exact forall_congr' fun w => not_congr isSingle_iff

theorem not_isSingle_of_hasKey {text : String} {document : Serial}
    (hdocument : serial? text = some document) (h : document.HasKey "workflows") (w : Workflow) :
    ¬ IsSingle text w := by
  rintro ⟨node, hnode, hw⟩
  rw [document?, hdocument] at hnode
  exact Workflow.not_saidBy_of_hasKey (Serial.hasKey_of_unfoldDocument h rfl hnode) w hw

theorem settled_of_parse? {text : String} {bundle : Bundle} (h : parse? text = some bundle) :
    bundle.Settled := by
  rw [parse?_eq, Option.or_eq_some_iff] at h
  -- One case for each way of reading; a single workflow is named by its own name.
  rcases h with hnamed | ⟨-, hsingle⟩
  · obtain ⟨node, -, hbundle⟩ := Option.bind_eq_some_iff.mp hnamed
    exact settled_of_ofNode? hbundle
  · obtain ⟨w, hw, rfl⟩ := Option.map_eq_some_iff.mp hsingle
    obtain ⟨node, -, hread⟩ := Option.bind_eq_some_iff.mp hw
    exact settled_single (Workflow.portable_of_ofNode? hread)

def written (bundle : Bundle) : Json :=
  .object [("workflows", .object (bundle.map fun e => (e.1, e.2.written)))]

theorem parse?_of_holds {bundle : Bundle} (h : bundle.Settled) {copy : String} {node : Node}
    (hnode : document? (· == "workflows") copy = some node) (hholds : node.Holds bundle.written) :
    parse? copy = some bundle := by
  obtain ⟨entries, hentries, hfiled⟩ := hholds.entries?
  obtain ⟨inner, hinner, hlisted⟩ :=
    hfiled.exists_filter_eq (by simp) (List.mem_singleton_self _)
  have hnamed : inner.named? Workflow.ofNode? = some bundle :=
    hlisted.named? Workflow.written h.distinct fun e he item hitem =>
      Workflow.ofNode?_of_holds (h.portable e he) hitem
  -- Every workflow has its name already, so naming changes nothing.
  have hsame : bundle = nameEach bundle := by
    have hid : bundle.map (fun e => (e.1, e.2.nameOr e.1)) = bundle.map id := by
      refine List.map_congr_left fun e he => ?_
      rw [Workflow.nameOr_eq]
      split_ifs with hname
      · have hkept : ({ e.2 with name := e.1 } : Workflow) = e.2 := by
          rw [h.named e he hname, ← hname]
        rw [hkept, id]
      · rfl
    rw [nameEach, hid, List.map_id]
  have hbundle : ofNode? node = some bundle :=
    ofNode?_eq_some_iff.mpr ⟨entries, inner, bundle, hentries, hinner, hnamed, hsame⟩
  rw [parse?_eq, hnode, Option.bind_some, hbundle]
  rfl

theorem ofFile_eq_ok_iff {path : String} {bytes : List UInt8} {said : Option String}
    {bundle : Bundle} :
    ofFile path (.ok bytes) said = .ok bundle ↔ parse? (Text.decodeLossy bytes) = some bundle := by
  rw [ofFile]
  cases parse? (Text.decodeLossy bytes) <;> simp

/-- However a bundle is written down, it is read from there again. -/
def ReadsBack (bundle : Bundle) : Prop :=
  ∀ (path : String) (copy : List UInt8) (said : Option String) (node : Node),
    document? (· == "workflows") (Text.decodeLossy copy) = some node →
      node.Holds bundle.written → ofFile path (.ok copy) said = .ok bundle

theorem Settled.readsBack {bundle : Bundle} (h : bundle.Settled) : bundle.ReadsBack :=
  fun _ _ _ _ hnode hholds => ofFile_eq_ok_iff.mpr (parse?_of_holds h hnode hholds)

/-- What a workflow file is read as. Named workflows are gathered; otherwise a single workflow is
taken under its name, and anything else is refused. A document with an entry `workflows` is never a
single workflow. What was read, written down in whatever way, is read again as it was, and so is
every bundle that is settled as what was read is. -/
theorem ofFile_reads (path : String) (bytes : List UInt8) (said : Option String) :
    (∀ nodes, NamedBy (Text.decodeLossy bytes) nodes →
      ∃ bundle, ofFile path (.ok bytes) said = .ok bundle ∧ bundle.GatheredFrom nodes) ∧
    ((∀ nodes, ¬ NamedBy (Text.decodeLossy bytes) nodes) →
      (∀ w, IsSingle (Text.decodeLossy bytes) w →
        let name := if w.name = "" then "default" else w.name
        ofFile path (.ok bytes) said = .ok [(name, { w with name })]) ∧
      ((∀ w, ¬ IsSingle (Text.decodeLossy bytes) w) →
        ofFile path (.ok bytes) said = .error (.workflowsUnsupported path said))) ∧
    (∀ document, serial? (Text.decodeLossy bytes) = some document →
      document.HasKey "workflows" → ∀ w, ¬ IsSingle (Text.decodeLossy bytes) w) ∧
    (∀ bundle, ofFile path (.ok bytes) said = .ok bundle → bundle.Settled ∧ bundle.ReadsBack) ∧
    ∀ bundle : Bundle, bundle.Settled → bundle.ReadsBack := by
  refine ⟨?named, ?others, fun document hdocument hkey => not_isSingle_of_hasKey hdocument hkey,
    ?again, fun bundle hsettled => hsettled.readsBack⟩
  case named =>
    intro nodes hnodes
    obtain ⟨bundle, hread, hgathered⟩ := exists_gatheredFrom hnodes
    refine ⟨bundle, ofFile_eq_ok_iff.mpr ?_, hgathered⟩
    rw [parse?_eq, hread]
    rfl
  case others =>
    intro hnone
    have hfirst := not_namedBy_iff.mp hnone
    constructor
    · intro w hw
      rw [ofFile_eq_ok_iff, parse?_eq, hfirst, isSingle_iff.mp hw, Option.none_or,
        Option.map_some, single_eq]
    · intro hsingle
      have hrefused : parse? (Text.decodeLossy bytes) = none := by
        rw [parse?_eq, hfirst, not_isSingle_iff.mp hsingle]
        rfl
      rw [ofFile, hrefused]
  case again =>
    intro bundle hread
    have hsettled := settled_of_parse? (ofFile_eq_ok_iff.mp hread)
    exact ⟨hsettled, hsettled.readsBack⟩

/-- Two workflows, one without a name and with a step that has all its entries. -/
def namedSource : List UInt8 :=
  Text.encode <|
    "workflows:\n" ++
    "  ingest:\n" ++
    "    activities:\n" ++
    "    - name: read\n" ++
    "      params: \x7bdeep: true\x7d\n" ++
    "      import: [path]\n" ++
    "      output: content\n" ++
    "    vars: \x7bpath: a.txt\x7d\n" ++
    "  notify:\n" ++
    "    name: notify-all\n"

/-- The same workflows as they are written. -/
def namedCopy : List UInt8 :=
  Text.encode <|
    "workflows:\n" ++
    "  ingest:\n" ++
    "    name: ingest\n" ++
    "    activities:\n" ++
    "    - name: read\n" ++
    "      params:\n" ++
    "        deep: true\n" ++
    "      import:\n" ++
    "      - path\n" ++
    "      output: content\n" ++
    "    vars:\n" ++
    "      path: a.txt\n" ++
    "  notify:\n" ++
    "    name: notify-all\n" ++
    "    activities: []\n" ++
    "    vars: \x7b\x7d\n"

/-- A workflow without a name. -/
def singleSource : List UInt8 :=
  Text.encode "activities:\n- name: read\n  output: content\nvars: \x7bpath: a.txt\x7d\n"

/-- A workflow under a name, with an unknown entry. -/
def misspelledSource : List UInt8 := Text.encode "workflows:\n  ingest:\n    steps: []\n"

theorem ofFile_reads_four :
    let bundle : Bundle := [
      ("ingest", ⟨"ingest", [⟨"read", [("deep", .bool true)], ["path"], some "content"⟩],
        [("path", .text "a.txt")]⟩),
      ("notify", ⟨"notify-all", [], []⟩)]
    ofFile "w.yaml" (.ok namedSource) = .ok bundle ∧
      ofFile "copy.yaml" (.ok namedCopy) = .ok bundle ∧
    ofFile "w.yaml" (.ok singleSource) = .ok [("default",
      ⟨"default", [⟨"read", [], [], some "content"⟩], [("path", .text "a.txt")]⟩)] ∧
    (∃ document, serial? (Text.decodeLossy misspelledSource) = some document ∧
      document.HasKey "workflows") ∧
    ofFile "w.yaml" (.ok misspelledSource) (some "unknown field") =
      .error (.workflowsUnsupported "w.yaml" (some "unknown field")) := by
  intro bundle
  have hbundle : (document? (· == "workflows") (Text.decodeLossy namedSource)).bind ofNode? =
      some bundle := by decide +kernel
  obtain ⟨hnamed, -, -, hagain, -⟩ := ofFile_reads "w.yaml" namedSource none
  obtain ⟨nodes, hnodes⟩ := exists_namedBy hbundle
  obtain ⟨gathered, hread, -⟩ := hnamed nodes hnodes
  obtain rfl : bundle = gathered := by
    have hparse := ofFile_eq_ok_iff.mp hread
    rw [parse?_eq, hbundle] at hparse
    exact Option.some.inj hparse
  refine ⟨hread, ?copy, ?single, ?misspelled⟩
  case copy =>
    have hcopy : (document? (· == "workflows") (Text.decodeLossy namedCopy)).any
        (fun node => decide (node.Holds bundle.written)) = true := by decide +kernel
    obtain ⟨node, hnode, hholds⟩ := (Option.any_eq_true _ _).mp hcopy
    exact (hagain bundle hread).2 "copy.yaml" namedCopy none node hnode (of_decide_eq_true hholds)
  case single =>
    let w : Workflow := ⟨"", [⟨"read", [], [], some "content"⟩], [("path", .text "a.txt")]⟩
    obtain ⟨-, hothers, -, -, -⟩ := ofFile_reads "w.yaml" singleSource none
    have hnone : (document? (· == "workflows") (Text.decodeLossy singleSource)).bind ofNode? =
        none := by decide +kernel
    have hsingle : (document? (fun _ => true) (Text.decodeLossy singleSource)).bind
        Workflow.ofNode? = some w := by decide +kernel
    obtain ⟨hread, -⟩ := hothers (not_namedBy_iff.mpr hnone)
    exact hread w (isSingle_iff.mpr hsingle)
  case misspelled =>
    obtain ⟨-, hothers, hkeys, -, -⟩ :=
      ofFile_reads "w.yaml" misspelledSource (some "unknown field")
    have hnone : (document? (· == "workflows") (Text.decodeLossy misspelledSource)).bind ofNode? =
        none := by decide +kernel
    have hkey : (serial? (Text.decodeLossy misspelledSource)).any
        (fun document => decide (document.HasKey "workflows")) = true := by decide +kernel
    obtain ⟨document, hdocument, hhas⟩ := (Option.any_eq_true _ _).mp hkey
    have hworkflows : document.HasKey "workflows" := of_decide_eq_true hhas
    obtain ⟨-, hrefused⟩ := hothers (not_namedBy_iff.mpr hnone)
    exact ⟨⟨document, hdocument, hworkflows⟩, hrefused (hkeys document hdocument hworkflows)⟩

end Bundle

end ActivityFlow
