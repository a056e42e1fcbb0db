import ActivityFlow.Proofs.Bindings.Assignment
import ActivityFlow.Proofs.Document.Retry
import ActivityFlow.Proofs.Retry.Policy
import ActivityFlow.Proofs.Yaml.Holding

/-!
# Configurations

A configuration is read as groups, which are laid over the built-in ones and have to make sense
together. A group of the document does not inherit anything from a built-in group of its name: a
setting that it leaves out has the standard value. What was read can be written down and is read
again as it was.
-/
namespace ActivityFlow

open Decoding Yaml

/-! ## Settings -/

/-- The value of a setting: what is read from its entry, or the default if there is none. -/
def Takes {α : Type} (entry : Option Json) (decode : Json → Result α) (default value : α) : Prop :=
  match entry with
  | none => value = default
  | some v => decode v = .ok value

theorem takes_of_field? {α : Type} {fields : Fields} {key : String} {decode : Json → Result α}
    {o : Option α} (h : field? fields key decode = .ok o) (default : α) :
    Takes (Fields.get? fields key) decode default (o.getD default) := by
  rw [field?] at h
  cases hget : Fields.get? fields key with
  | none =>
    rw [hget] at h
    obtain rfl := Except.ok.inj h
    rfl
  | some v =>
    rw [hget] at h
    obtain ⟨a, ha, rfl⟩ := map_eq_ok.mp h
    exact ha

theorem takes_of_itemD {α : Type} {items : List Json} {place : Nat} {decode : Json → Result α}
    {default value : α} (h : itemD items place default decode = .ok value) :
    Takes items[place]? decode default value := by
  rw [itemD] at h
  cases hget : items[place]? with
  | none =>
    rw [hget] at h
    exact (Except.ok.inj h).symm
  | some v =>
    rw [hget] at h
    exact h

/-- A part of a record, which may be written with names or in order. -/
def recordPart (v : Json) (place : Nat) (name : String) : Option Json :=
  match v with
  | .object fields => Fields.get? fields name
  | .array items => items[place]?
  | _ => none

namespace RetryPolicy

/-- A policy has the settings that a document gives it, and standard ones in place of those that
the document leaves out. -/
structure SetBy (p : RetryPolicy) (source : Decoding.Source) (v : Json) : Prop where
  initial : Takes (recordPart v 0 "initial_interval") asSpan standard.initialInterval
    p.initialInterval
  coefficient : Takes (recordPart v 1 "backoff_coefficient") asNumber standard.coefficient
    p.coefficient
  attempts : Takes (recordPart v 2 "maximum_attempts") asWord32 standard.maximumAttempts
    p.maximumAttempts
  maximum : Takes (recordPart v 3 "maximum_interval") asSpan standard.maximumInterval
    p.maximumInterval
  kinds : Takes (recordPart v 4 "non_retryable_error_kinds") (decodeKinds source)
    standard.finalKinds p.finalKinds

theorem setBy_of_decode {source : Decoding.Source} {v : Json} {p : RetryPolicy}
    (h : decode source v = .ok p) : p.SetBy source v := by
  cases v with
  | object fields =>
    have hfields : ofFields source fields = .ok p := h
    simp only [ofFields, bind_eq_ok, pure_eq_ok] at hfields
    obtain ⟨_, hcoefficient, _, hinitial, _, hattempts, _, hmaximum, _, hkinds, rfl⟩ := hfields
    exact ⟨takes_of_field? hinitial _, takes_of_field? hcoefficient _,
      takes_of_field? hattempts _, takes_of_field? hmaximum _, takes_of_field? hkinds _⟩
  | array items =>
    have hitems : ofItems source items = .ok p := h
    simp only [ofItems, bind_eq_ok, pure_eq_ok] at hitems
    obtain ⟨_, hinitial, _, hcoefficient, _, hattempts, _, hmaximum, _, hkinds, _, -, rfl⟩ :=
      hitems
    exact ⟨takes_of_itemD hinitial, takes_of_itemD hcoefficient, takes_of_itemD hattempts,
      takes_of_itemD hmaximum, takes_of_itemD hkinds⟩
  | null => cases h
  | bool b => cases h
  | int n => cases h
  | float x => cases h
  | text t => cases h

end RetryPolicy

/-! ## Groups of a document -/

theorem field?_filter_of_ne {α : Type} (entries : List (String × Node)) {name other : String}
    (h : name ≠ other) (read : Node → Option α) :
    Node.field? (entries.filter fun e => e.1 != other) name read =
      Node.field? entries name read := by
  have hfilter : (entries.filter fun e => e.1 != other).filter (·.1 == name) =
      entries.filter (·.1 == name) := by
    rw [List.filter_filter]
    refine List.filter_congr fun e _ => ?_
    by_cases hname : e.1 = name
    · simp [hname, h]
    · simp [hname]
  rw [Node.field?, Node.field?, hfilter]

namespace Group

/-- A node says a group: the activities that it lists, and the options that it sets, with the
standard ones in place of those that it leaves out. -/
def SaidBy (g : Group) (node : Node) : Prop :=
  ∃ entries activities timeout retry, node.entries? = some entries ∧
    Node.field? entries "activities" (Node.items? Node.text?) = some activities ∧
    Node.field? entries "start_to_close_timeout" Setting.value? = some timeout ∧
    Node.field? entries "retry" Setting.policy? = some retry ∧
    g.activities = activities.getD [] ∧
    Takes timeout asSpan AttemptOptions.standard.timeout g.options.timeout ∧
    Takes retry (RetryPolicy.decode .aside) RetryPolicy.standard g.options.retry ∧
    ∀ v, retry = some v → g.options.retry.SetBy .aside v

/-- The entries that the options of a group are read from. -/
def optionFields (retry timeout : Option Json) : Fields :=
  retry.toList.map (("retry", ·)) ++ timeout.toList.map (("start_to_close_timeout", ·))

theorem get?_retry_optionFields (retry timeout : Option Json) :
    Fields.get? (optionFields retry timeout) "retry" = retry := by
  cases retry <;> cases timeout <;> simp [optionFields, Fields.get?]

theorem get?_timeout_optionFields (retry timeout : Option Json) :
    Fields.get? (optionFields retry timeout) "start_to_close_timeout" = timeout := by
  cases retry <;> cases timeout <;> simp [optionFields, Fields.get?]

theorem ofNode?_eq_some_iff {node : Node} {g : Group} :
    ofNode? node = some g ↔ ∃ entries activities values timeout retry,
      node.entries? = some entries ∧
      Node.field? entries "activities" (Node.items? Node.text?) = some activities ∧
      (entries.filter fun e => e.1 != "activities").mapM (fun e => Setting.value? e.2) =
        some values ∧
      Node.field? entries "start_to_close_timeout" Setting.value? = some timeout ∧
      Node.field? entries "retry" Setting.policy? = some retry ∧
      AttemptOptions.ofFields .aside (optionFields retry timeout) = .ok g.options ∧
      g.activities = activities.getD [] := by
  have htoOption : ∀ {x : Result AttemptOptions} {options : AttemptOptions},
      x.toOption = some options ↔ x = .ok options := by
    intro x options
    cases x <;> simp [Except.toOption]
  have htimeout : ∀ entries : List (String × Node),
      Node.field? (entries.filter fun e => e.1 != "activities") "start_to_close_timeout"
        Setting.value? = Node.field? entries "start_to_close_timeout" Setting.value? :=
    fun entries => field?_filter_of_ne entries (by decide) Setting.value?
  have hretry : ∀ entries : List (String × Node),
      Node.field? (entries.filter fun e => e.1 != "activities") "retry" Setting.policy? =
        Node.field? entries "retry" Setting.policy? :=
    fun entries => field?_filter_of_ne entries (by decide) Setting.policy?
  simp only [ofNode?, Option.bind_eq_bind, Option.bind_eq_some_iff, htimeout, hretry, htoOption,
    Option.pure_def, Option.some.injEq]
  constructor
  · rintro ⟨entries, hentries, activities, hactivities, values, hvalues, timeout, htime, retry,
      hpolicy, options, hoptions, rfl⟩
    exact ⟨entries, activities, values, timeout, retry, hentries, hactivities, hvalues, htime,
      hpolicy, hoptions, rfl⟩
  · rintro ⟨entries, activities, values, timeout, retry, hentries, hactivities, hvalues, htime,
      hpolicy, hoptions, hlisted⟩
    exact ⟨entries, hentries, activities, hactivities, values, hvalues, timeout, htime, retry,
      hpolicy, g.options, hoptions, by rw [← hlisted]⟩

theorem valid_of_ofNode? {node : Node} {g : Group} (h : ofNode? node = some g) : g.Valid := by
  obtain ⟨_, _, _, _, _, -, -, -, -, -, hoptions, -⟩ := ofNode?_eq_some_iff.mp h
  exact AttemptOptions.valid_of_ofFields hoptions

theorem saidBy_of_ofNode? {node : Node} {g : Group} (h : ofNode? node = some g) :
    g.SaidBy node := by
  obtain ⟨entries, activities, _, timeout, retry, hentries, hactivities, -, htime, hpolicy,
    hoptions, hlisted⟩ := ofNode?_eq_some_iff.mp h
  simp only [AttemptOptions.ofFields, bind_eq_ok, pure_eq_ok] at hoptions
  obtain ⟨policy, hretry, span, htimeout, hg⟩ := hoptions
  have htakesRetry := takes_of_field? hretry AttemptOptions.standard.retry
  have htakesTimeout := takes_of_field? htimeout AttemptOptions.standard.timeout
  rw [get?_retry_optionFields] at htakesRetry
  rw [get?_timeout_optionFields] at htakesTimeout
  refine ⟨entries, activities, timeout, retry, hentries, hactivities, htime, hpolicy, hlisted,
    ?_, ?_, ?_⟩
  · rw [← hg]
    exact htakesTimeout
  · rw [← hg]
    exact htakesRetry
  · rintro v rfl
    rw [← hg]
    exact RetryPolicy.setBy_of_decode htakesRetry

end Group

namespace Groups

/-- A node says groups: those under its entry `groups`, in the order in which their names first
appear, each as its last node says, and none if there is no such entry. -/
def SaidBy (document : Groups) (node : Node) : Prop :=
  ∃ entries, node.entries? = some entries ∧
    ((document = [] ∧ ∀ e ∈ entries, e.1 ≠ "groups") ∨
      ∃ inner nodes, entries.filter (·.1 == "groups") = [("groups", inner)] ∧
        inner.entries? = some nodes ∧
        document.map Prod.fst = (nodes.map Prod.fst).eraseDups ∧
        ∀ name node, nodes.reverse.lookup name = some node →
          ∃ group : Group, group.SaidBy node ∧ (name, group) ∈ document)

/-- Groups are read from a text as its node says, under distinct names, and can be written. -/
theorem of_read? {text : String} {document : Groups} (h : read? text = some document) :
    (∃ node, document? (· == "groups") text = some node ∧ document.SaidBy node) ∧
      (document.map Prod.fst).Nodup ∧ ∀ e ∈ document, e.2.Valid := by
  obtain ⟨node, hnode, hgroups⟩ := Option.bind_eq_some_iff.mp h
  rw [ofNode?] at hgroups
  obtain ⟨entries, hentries, hgroups⟩ := Option.bind_eq_some_iff.mp hgroups
  obtain ⟨o, hfield, hdocument⟩ := Option.bind_eq_some_iff.mp hgroups
  obtain rfl := Option.some.inj hdocument
  rcases Node.field?_eq_some hfield with ⟨rfl, habsent⟩ | ⟨inner, named, hinner, hnamed, rfl⟩
  · exact ⟨⟨node, hnode, entries, hentries, .inl ⟨rfl, habsent⟩⟩, List.nodup_nil, by simp⟩
  · obtain ⟨nodes, hnodes, hread, hlists⟩ := Node.named?_eq_some hnamed
    refine ⟨⟨node, hnode, entries, hentries, .inr ⟨inner, nodes, hinner, hnodes, hlists.names,
      ?_⟩⟩, hlists.nodup, ?_⟩
    · intro name item hitem
      obtain ⟨group, hgroup, hmem⟩ := hlists.values name item hitem
      exact ⟨group, Group.saidBy_of_ofNode? hgroup, hmem⟩
    · intro e he
      obtain ⟨item, -, hitem⟩ := hlists.exists_of_mem he
      exact Group.valid_of_ofNode? hitem

/-! ## Configurations as read -/

/-- The built-in groups, each replaced by the document's group of its name if there is one, and the
document's other groups behind them in their order. -/
def arranged (document : Groups) : Groups :=
  (defaultName, (document.lookup defaultName).getD ⟨.standard, []⟩) ::
    (longRunningName, (document.lookup longRunningName).getD ⟨.longRunning, []⟩) ::
      document.filter fun e => e.1 ≠ defaultName ∧ e.1 ≠ longRunningName

theorem overlay_eq_arranged {document : Groups} (h : (document.map Prod.fst).Nodup) :
    overlay document = arranged document := by
  have hoverlay : overlay document = putAll builtIn document := rfl
  rw [hoverlay, putAll_of_nodup (by decide) h]
  have hfilter : document.filter (fun e => e.1 ∉ builtIn.map Prod.fst) =
      document.filter fun e => e.1 ≠ defaultName ∧ e.1 ≠ longRunningName := by
    refine List.filter_congr fun e _ => ?_
    simp [builtIn]
  rw [hfilter]
  rfl

/-- Groups that begin with the built-in ones are their own arrangement. -/
theorem arranged_arranged (document : Groups) :
    arranged (arranged document) = arranged document := by
  have hlong : ¬ longRunningName = defaultName := by decide
  -- The built-in groups are looked up where they stand, and the others pass the same test again.
  have hrest : (document.filter fun e => e.1 ≠ defaultName ∧ e.1 ≠ longRunningName).filter
      (fun e => e.1 ≠ defaultName ∧ e.1 ≠ longRunningName) =
        document.filter fun e => e.1 ≠ defaultName ∧ e.1 ≠ longRunningName := by
    rw [List.filter_filter]
    refine List.filter_congr fun e _ => ?_
    simp
  rw [arranged, arranged, lookup_cons_ite, if_pos rfl, lookup_cons_ite, if_neg hlong,
    lookup_cons_ite, if_pos rfl, List.filter_cons_of_neg (by simp),
    List.filter_cons_of_neg (by simp), hrest]
  rfl

/-- Groups make sense together: each policy does, and no activity is listed twice. -/
def Sensible (groups : Groups) : Prop :=
  (∀ e ∈ groups, e.2.options.retry.Sensible) ∧ groups.listed.Nodup

theorem configure_eq_ok_iff {document groups : Groups} (h : (document.map Prod.fst).Nodup) :
    configure document = .ok groups ↔ groups = arranged document ∧ groups.Sensible := by
  have hvalid : (arranged document).validate = .ok () ↔ (arranged document).Sensible := by
    rw [validate_eq_ok_iff, Sensible]
    simp only [RetryPolicy.validate_eq_ok_iff]
  rw [configure, overlay_eq_arranged h]
  cases hvalidate : (arranged document).validate with
  | error fault =>
    constructor
    · intro hok
      cases hok
    · rintro ⟨rfl, hsensible⟩
      rw [hvalid.mpr hsensible] at hvalidate
      cases hvalidate
  | ok value =>
    constructor
    · intro hok
      obtain rfl := Except.ok.inj hok
      exact ⟨rfl, hvalid.mp hvalidate⟩
    · rintro ⟨rfl, -⟩
      rfl

theorem parse_eq_ok_iff {text : String} {groups : Groups} :
    parse text = .ok groups ↔
      ∃ document, read? text = some document ∧ groups = arranged document ∧ groups.Sensible := by
  rw [parse]
  cases hread : read? text with
  | none => simp
  | some document =>
    obtain ⟨-, hnodup, -⟩ := of_read? hread
    have hmapError : (configure document).mapError ConfigurationFault.invalid = .ok groups ↔
        configure document = .ok groups := by
      cases configure document <;> simp [Except.mapError]
    rw [hmapError, configure_eq_ok_iff hnodup]
    simp

end Groups

/-! ## Configurations as written -/

namespace RetryPolicy

def writtenFields (p : RetryPolicy) : Fields :=
  [("initial_interval", p.initialInterval.encode), ("backoff_coefficient", .float p.coefficient),
    ("maximum_attempts", .int p.maximumAttempts), ("maximum_interval", p.maximumInterval.encode),
    ("non_retryable_error_kinds", .array (p.finalKinds.map FailureKind.encode))]

theorem includes_writtenFields (p : RetryPolicy) :
    Fields.Includes p.writtenFields p.toFields := by
  intro e he
  simp only [toFields, List.mem_cons, List.not_mem_nil, or_false] at he
  rcases he with rfl | rfl | rfl | rfl | rfl <;> rfl

end RetryPolicy

namespace Group

def writtenFields (g : Group) : Fields :=
  [("start_to_close_timeout", g.options.timeout.encode),
    ("retry", .object g.options.retry.writtenFields)] ++
      if g.activities.isEmpty then [] else [("activities", .array (g.activities.map .text))]

theorem nodup_writtenFields (g : Group) : (g.writtenFields.map Prod.fst).Nodup := by
  rw [writtenFields]
  split_ifs <;> simp

def written (g : Group) : Json := .object g.writtenFields

end Group

def Groups.written (groups : Groups) : Json :=
  .object [("groups", .object (groups.map fun e => (e.1, e.2.written)))]

namespace Setting

mutual

/-- A setting is read where it was written. -/
theorem value?_of_holds : ∀ (node : Node) {v : Json}, node.Holds v → value? node = some v
  | .scalar s, v, h => h.2
  | .sequence tag items, .array values, h => by
    obtain ⟨rfl, hitems⟩ := h
    rw [value?, if_pos Node.admitsTag_none, itemValues?_of_hold items hitems, Option.map_some]
  | .mapping tag entries, .object fields, h => by
    obtain ⟨rfl, hentries⟩ := h
    rw [value?, if_pos Node.admitsTag_none, entryValues?_of_hold entries hentries,
      Option.map_some]

theorem itemValues?_of_hold : ∀ (items : List Node) {values : List Json},
    Node.ItemsHold items values → itemValues? items = some values
  | [], [], _ => rfl
  | item :: rest, v :: values, h => by
    rw [itemValues?, value?_of_holds item h.1, itemValues?_of_hold rest h.2]
    rfl

theorem entryValues?_of_hold : ∀ (entries : List (Node × Node)) {fields : Fields},
    Node.EntriesHold entries fields → entryValues? entries = some fields
  | [], [], _ => rfl
  | (key, node) :: rest, (name, v) :: fields, h => by
    rw [entryValues?, value?_of_holds key h.1.1, value?_of_holds node h.1.2,
      entryValues?_of_hold rest h.2]
    rfl

end

theorem name?_of_holds (names : List String) {key : Node} {name : String}
    (h : key.Holds (.text name)) : name? names key = some name := by
  rw [name?, value?_of_holds key h]
  rfl

theorem namedValue?_of_holds (names : List String) {read : String → Node → Option Json}
    {node : Node} {fields : Fields} (h : node.Holds (.object fields))
    (hnodup : (fields.map Prod.fst).Nodup)
    (hread : ∀ e ∈ fields, ∀ item : Node, item.Holds e.2 → read e.1 item = some e.2) :
    namedValue? names read node = some (.object fields) := by
  obtain ⟨entries, rfl, hentries⟩ := h.object
  have hfields : entries.mapM (fun e => do
      let name ← name? names e.1
      return (name, ← read name e.2)) = some fields := by
    rw [← List.map_id fields] at hentries
    refine Node.mapM_of_forall₂ hentries ?_
    rintro ⟨name, v⟩ hmem ⟨key, item⟩ ⟨hkey, hitem⟩
    have hname : name? names key = some name := name?_of_holds names hkey
    have hvalue : read name item = some v := hread (name, v) hmem item hitem
    simp only [hname, hvalue, Option.bind_eq_bind, Option.bind_some, Option.pure_def]
  -- The names are distinct, so none of the known ones occurs twice.
  have honce : (names.any fun name => 1 < (fields.filter fun e => e.1 == name).length) = false := by
    rw [List.any_eq_false]
    intro name _
    have hcount := List.nodup_iff_count_le_one.mp hnodup name
    rw [List.count, List.countP_map, List.countP_eq_length_filter] at hcount
    have hle : (fields.filter fun e => e.1 == name).length ≤ 1 := hcount
    simp [Nat.not_lt.mpr hle]
  rw [namedValue?, hfields]
  simp only [Option.bind_eq_bind, Option.bind_some, honce]
  rfl

theorem kinds?_of_holds {kinds : List FailureKind} {node : Node}
    (h : node.Holds (.array (kinds.map FailureKind.encode))) :
    kinds? node = some (.array (kinds.map FailureKind.encode)) := by
  obtain ⟨items, rfl, hitems⟩ := h.array
  have hvalues : items.mapM (namedValue? (FailureKind.all.map (·.tag)) fun _ => value?) =
      some (kinds.map FailureKind.encode) := by
    rw [← List.map_id (kinds.map FailureKind.encode)] at hitems
    refine Node.mapM_of_forall₂ hitems ?_
    rintro v hv item hitem
    obtain ⟨kind, -, rfl⟩ := List.mem_map.mp hv
    obtain ⟨s, rfl, -⟩ := Node.Holds.text hitem
    exact value?_of_holds _ hitem
  rw [kinds?, hvalues, Option.map_some]

theorem policy?_of_holds {p : RetryPolicy} {node : Node}
    (h : node.Holds (.object p.writtenFields)) : policy? node = some (.object p.writtenFields) := by
  obtain ⟨entries, rfl, -⟩ := h.object
  refine namedValue?_of_holds policyNames h (by simp [RetryPolicy.writtenFields]) ?_
  intro e he item hitem
  rw [policyPart?]
  by_cases hkinds : e.1 = "non_retryable_error_kinds"
  · rw [if_pos hkinds]
    have hvalue : e.2 = .array (p.finalKinds.map FailureKind.encode) := by
      simp only [RetryPolicy.writtenFields, List.mem_cons, List.not_mem_nil, or_false] at he
      rcases he with rfl | rfl | rfl | rfl | rfl
      · simp at hkinds
      · simp at hkinds
      · simp at hkinds
      · simp at hkinds
      · rfl
    rw [hvalue] at hitem ⊢
    exact kinds?_of_holds hitem
  · rw [if_neg hkinds]
    exact value?_of_holds item hitem

end Setting

theorem Group.ofNode?_of_holds {g : Group} (hvalid : g.Valid) {node : Node}
    (h : node.Holds g.written) : ofNode? node = some g := by
  obtain ⟨entries, hentries, hfiled⟩ := Node.Holds.entries? h
  have hnodup := g.nodup_writtenFields
  have hactivities : ∃ activities,
      Node.field? entries "activities" (Node.items? Node.text?) = some activities ∧
        g.activities = activities.getD [] := by
    by_cases hempty : g.activities.isEmpty = true
    · refine ⟨none, hfiled.field?_of_notMem ?_ _, List.isEmpty_iff.mp hempty⟩
      rw [writtenFields, if_pos hempty]
      simp
    · have hmem : ("activities", .array (g.activities.map .text)) ∈ g.writtenFields := by
        rw [writtenFields, if_neg hempty]
        simp
      refine ⟨some g.activities, hfiled.field?_of_mem hnodup hmem fun item hitem => ?_, rfl⟩
      exact hitem.items? fun text _ part hpart => hpart.text?
  obtain ⟨activities, hread, hlisted⟩ := hactivities
  -- All entries but the activities have to be values, also those that no setting takes.
  have hsettings : ∃ values, (entries.filter fun e => e.1 != "activities").mapM
      (fun e => Setting.value? e.2) = some values := by
    refine Node.exists_mapM_eq_some fun e he => ?_
    obtain ⟨v, hv⟩ := hfiled.exists_holds (List.mem_filter.mp he).1
    exact ⟨v, Setting.value?_of_holds e.2 hv⟩
  obtain ⟨values, hvalues⟩ := hsettings
  have htimeout : Node.field? entries "start_to_close_timeout" Setting.value? =
      some (some g.options.timeout.encode) :=
    hfiled.field?_of_mem hnodup (by simp [writtenFields]) fun item hitem =>
      Setting.value?_of_holds item hitem
  have hretry : Node.field? entries "retry" Setting.policy? =
      some (some (.object g.options.retry.writtenFields)) :=
    hfiled.field?_of_mem hnodup (by simp [writtenFields]) fun item hitem =>
      Setting.policy?_of_holds hitem
  have hpolicy : RetryPolicy.decode .aside (.object g.options.retry.writtenFields) =
      .ok g.options.retry :=
    RetryPolicy.ofFields_of_includes .aside hvalid.retry g.options.retry.includes_writtenFields
  have hspan : asSpan g.options.timeout.encode = .ok g.options.timeout :=
    faithful_asSpan.decode_encode _ hvalid.timeout
  have hoptions : AttemptOptions.ofFields .aside (optionFields
      (some (.object g.options.retry.writtenFields)) (some g.options.timeout.encode)) =
        .ok g.options := by
    rw [AttemptOptions.ofFields, field?, field?, get?_retry_optionFields,
      get?_timeout_optionFields]
    simp only [hpolicy, hspan, map_ok, ok_bind]
    rfl
  exact ofNode?_eq_some_iff.mpr ⟨entries, activities, values, _, _, hentries, hread, hvalues,
    htimeout, hretry, hoptions, hlisted⟩

namespace Groups

theorem read?_of_holds {groups : Groups} (hvalid : ∀ e ∈ groups, e.2.Valid)
    (hnodup : (groups.map Prod.fst).Nodup) {copy : String} {node : Node}
    (hnode : document? (· == "groups") copy = some node) (h : node.Holds groups.written) :
    read? copy = some groups := by
  obtain ⟨entries, hentries, hfiled⟩ := h.entries?
  have hgroups : Node.field? entries "groups" (Node.named? Group.ofNode?) = some (some groups) := by
    refine hfiled.field?_of_mem (by simp) (List.mem_singleton_self _) fun inner hinner => ?_
    exact hinner.named? Group.written hnodup
      fun e he item hitem => Group.ofNode?_of_holds (hvalid e he) hitem
  rw [read?, hnode, Option.bind_some, ofNode?, hentries]
  simp only [Option.bind_eq_bind, Option.bind_some, hgroups]
  rfl

theorem valid_arranged {document : Groups} (h : ∀ e ∈ document, e.2.Valid) :
    ∀ e ∈ arranged document, e.2.Valid := by
  have hgetD : ∀ (name : String) (group : Group), group.Valid →
      ((document.lookup name).getD group).Valid := by
    intro name group hgroup
    cases hlookup : document.lookup name with
    | none => exact hgroup
    | some found => exact h (name, found) (mem_of_lookup hlookup)
  intro e he
  rcases List.mem_cons.mp he with rfl | he
  · exact hgetD _ _ AttemptOptions.valid_standard
  rcases List.mem_cons.mp he with rfl | he
  · exact hgetD _ _ ⟨Or.inl rfl, Or.inl rfl, by decide, Or.inl rfl, rfl⟩
  · exact h e (List.mem_filter.mp he).1

/-- The groups of a configuration text. The text is read if its node says groups that make sense
when they are laid over the built-in ones, and gives these. What was read, written down in whatever
way, is read again as it was, groups and order. -/
theorem parse_arranges (text : String) :
    (∀ groups, parse text = .ok groups ↔
      ∃ document, read? text = some document ∧ groups = arranged document ∧ groups.Sensible) ∧
    (∀ document, read? text = some document →
      ∃ node, document? (· == "groups") text = some node ∧ document.SaidBy node) ∧
    ∀ groups, parse text = .ok groups → ∀ copy node,
      document? (· == "groups") copy = some node → node.Holds groups.written →
        parse copy = .ok groups := by
  refine ⟨fun groups => parse_eq_ok_iff, fun document hread => (of_read? hread).1, ?_⟩
  intro groups hparse copy node hnode hholds
  obtain ⟨document, hread, hgroups, hsensible⟩ := parse_eq_ok_iff.mp hparse
  obtain ⟨-, -, hvalid⟩ := of_read? hread
  have hvalid' : ∀ e ∈ groups, e.2.Valid := hgroups ▸ valid_arranged hvalid
  have hdistinct : (groups.map Prod.fst).Nodup := (sound_of_parse hparse).distinct
  refine parse_eq_ok_iff.mpr ⟨groups, read?_of_holds hvalid' hdistinct hnode hholds, ?_, hsensible⟩
  rw [hgroups, arranged_arranged]

/-- A configuration whose two groups share their settings. -/
def sharedSource : String :=
  "groups:\n" ++
  "  default: &few\n" ++
  "    retry:\n" ++
  "      maximum_attempts: 3\n" ++
  "      non_retryable_error_kinds: []\n" ++
  "  long_running: *few\n"

/-- The same configuration with the settings that were left out. -/
def sharedCopy : String :=
  "groups:\n" ++
  "  default: &few\n" ++
  "    start_to_close_timeout: 5m\n" ++
  "    retry:\n" ++
  "      initial_interval: 1s\n" ++
  "      backoff_coefficient: 2.0\n" ++
  "      maximum_attempts: 3\n" ++
  "      maximum_interval: 100s\n" ++
  "      non_retryable_error_kinds: []\n" ++
  "  long_running: *few\n"

theorem parse_arranges_shared :
    ∃ groups : Groups, parse sharedSource = .ok groups ∧
      groups.map Prod.fst = [defaultName, longRunningName] ∧
      (∃ document node, read? sharedSource = some document ∧ document.SaidBy node) ∧
      parse sharedCopy = .ok groups := by
  let few : Group :=
    ⟨⟨.seconds 300, { RetryPolicy.standard with maximumAttempts := 3, finalKinds := [] }⟩, []⟩
  let groups : Groups := [(defaultName, few), (longRunningName, few)]
  obtain ⟨harranged, hsaid, hround⟩ := parse_arranges sharedSource
  have hparse : parse sharedSource = .ok groups := by decide +kernel
  obtain ⟨document, hread, -⟩ := (harranged groups).mp hparse
  obtain ⟨node, -, hnode⟩ := hsaid document hread
  have hcopy : (document? (· == "groups") sharedCopy).any
      (fun node => decide (node.Holds groups.written)) = true := by decide +kernel
  obtain ⟨copy, hcopied, hholds⟩ := (Option.any_eq_true _ _).mp hcopy
  exact ⟨groups, hparse, rfl, ⟨document, node, hread, hnode⟩,
    hround groups hparse sharedCopy copy hcopied (of_decide_eq_true hholds)⟩

end Groups

end ActivityFlow
