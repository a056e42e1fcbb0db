import ActivityFlow.Bindings
import ActivityFlow.Sources
import ActivityFlow.Proofs.Document.Named
import ActivityFlow.Proofs.Lists.First

/-!
# Registration

Catalogs of activities and registries of sources take names by one rule: a name is given once, and
what it was given to first keeps it. So everything about such a table can be told from the entries
that were ever offered to it, the refused ones among them. The built-in sources stand at the
beginning as if they had been offered before all others.
-/
namespace ActivityFlow

variable {τ α : Type}

/-! ## Tables in which a name is given once -/

section

variable (register : τ → String → α → Except SetupError τ)

/-- The table after one more registration: as it was if the registration was refused. -/
def registerOrKeep (table : τ) (e : String × α) : τ :=
  match register table e.1 e.2 with
  | .ok grown => grown
  | .error _ => table

/-- The table after registrations one after the other. -/
def registerEach (table : τ) (offered : List (String × α)) : τ :=
  offered.foldl (registerOrKeep register) table

/-- Tables of some kind take an entry at their end, but refuse a name that they have. -/
structure TakesOnce (duplicate : String → SetupError) (entries : τ → List (String × α)) : Prop where
  refuses : ∀ table name value, name ∈ (entries table).map Prod.fst →
    register table name value = .error (duplicate name)
  accepts : ∀ table name value, name ∉ (entries table).map Prod.fst →
    ∃ grown, register table name value = .ok grown ∧
      entries grown = entries table ++ [(name, value)]

/-- What a table is after the offered entries: it refuses just the names among them and stays as
it is, it lists each of these names once in the order of their first entries, and a lookup finds
the first entry of a name. -/
structure KeepsFirst (duplicate : String → SetupError) (names : τ → List String)
    (get? : τ → String → Option α) (offered : List (String × α)) (table : τ) : Prop where
  refused_iff : ∀ name value fault, register table name value = .error fault ↔
    name ∈ offered.map Prod.fst ∧ fault = duplicate name
  kept : ∀ name value, name ∈ offered.map Prod.fst →
    registerOrKeep register table (name, value) = table
  names_eq : names table = (offered.map Prod.fst).eraseDups
  get?_eq_some_iff : ∀ name value, get? table name = some value ↔
    ∃ place, FirstIn offered (fun e => e.1 = name) place (name, value)
  get?_eq_none_iff : ∀ name, get? table name = none ↔ name ∉ offered.map Prod.fst

end

/-- The entries are those that were the first of their names among the offered ones. -/
structure FirstOfEach (offered entries : List (String × α)) : Prop where
  names_eq : entries.map Prod.fst = (offered.map Prod.fst).eraseDups
  lookup_eq : ∀ name, entries.lookup name = offered.lookup name

namespace FirstOfEach

variable {offered entries : List (String × α)}

theorem nil : FirstOfEach ([] : List (String × α)) [] := ⟨rfl, fun _ => rfl⟩

theorem mem_names_iff (h : FirstOfEach offered entries) {name : String} :
    name ∈ entries.map Prod.fst ↔ name ∈ offered.map Prod.fst := by
  rw [h.names_eq, List.mem_eraseDups]

/-- An entry of a name that is taken changes nothing. -/
theorem of_taken (h : FirstOfEach offered entries) {e : String × α}
    (he : e.1 ∈ offered.map Prod.fst) : FirstOfEach (offered ++ [e]) entries := by
  refine ⟨?_, fun name => ?_⟩
  · simp [h.names_eq, List.eraseDups_append, List.removeAll, he]
  · rw [h.lookup_eq, List.lookup_append]
    cases hname : offered.lookup name with
    | some value => rfl
    | none =>
      have hother : name ∉ [e].map Prod.fst := by
        rw [List.map_singleton, List.mem_singleton]
        rintro rfl
        exact lookup_eq_none_iff_notMem.mp hname he
      rw [lookup_eq_none_iff_notMem.mpr hother, Option.or_none]

/-- An entry of a new name comes last. -/
theorem of_new (h : FirstOfEach offered entries) {e : String × α}
    (he : e.1 ∉ offered.map Prod.fst) : FirstOfEach (offered ++ [e]) (entries ++ [e]) := by
  refine ⟨?_, fun name => ?_⟩
  · simp [h.names_eq, List.eraseDups_append, List.eraseDups_cons, List.removeAll, he]
  · rw [List.lookup_append, List.lookup_append, h.lookup_eq]

end FirstOfEach

namespace TakesOnce

variable {register : τ → String → α → Except SetupError τ} {duplicate : String → SetupError}
variable {entries : τ → List (String × α)} {offered : List (String × α)} {table : τ}
variable (h : TakesOnce register duplicate entries)
include h

/-- One more registration, refused or not, keeps the first entry of each name. -/
theorem firstOfEach_registerOrKeep (hfirst : FirstOfEach offered (entries table)) (e : String × α) :
    FirstOfEach (offered ++ [e]) (entries (registerOrKeep register table e)) := by
  by_cases hname : e.1 ∈ offered.map Prod.fst
  · have hrefused := h.refuses table e.1 e.2 (hfirst.mem_names_iff.mpr hname)
    rw [registerOrKeep, hrefused]
    exact hfirst.of_taken hname
  · obtain ⟨grown, hgrown, hentries⟩ :=
      h.accepts table e.1 e.2 (mt hfirst.mem_names_iff.mp hname)
    rw [registerOrKeep, hgrown]
    show FirstOfEach (offered ++ [e]) (entries grown)
    rw [hentries]
    exact hfirst.of_new hname

theorem firstOfEach_registerEach (hfirst : FirstOfEach offered (entries table))
    (later : List (String × α)) :
    FirstOfEach (offered ++ later) (entries (registerEach register table later)) := by
  induction later generalizing offered table with
  | nil => simpa [registerEach] using hfirst
  | cons e rest ih =>
    have hrest := ih (h.firstOfEach_registerOrKeep hfirst e)
    rwa [List.append_assoc, List.singleton_append] at hrest

/-- What a table is follows from what its entries are. -/
theorem keepsFirst_of_firstOfEach (hfirst : FirstOfEach offered (entries table)) :
    KeepsFirst register duplicate (fun table => (entries table).map Prod.fst)
      (fun table name => (entries table).lookup name) offered table := by
  have hrefused : ∀ name value, name ∈ offered.map Prod.fst →
      register table name value = .error (duplicate name) :=
    fun name value hname => h.refuses table name value (hfirst.mem_names_iff.mpr hname)
  refine ⟨fun name value fault => ⟨fun hfault => ?_, ?_⟩, fun name value hname => ?_,
    hfirst.names_eq, fun name value => ?_, fun name => ?_⟩
  · by_cases hname : name ∈ offered.map Prod.fst
    · rw [hrefused name value hname] at hfault
      exact ⟨hname, (Except.error.inj hfault).symm⟩
    · obtain ⟨grown, hgrown, -⟩ := h.accepts table name value (mt hfirst.mem_names_iff.mp hname)
      rw [hgrown] at hfault
      cases hfault
  · rintro ⟨hname, rfl⟩
    exact hrefused name value hname
  · rw [registerOrKeep, hrefused name value hname]
  · rw [hfirst.lookup_eq, lookup_eq_some_iff_firstIn]
  · rw [hfirst.lookup_eq, lookup_eq_none_iff_notMem]

/-- The table after registrations one after the other. -/
theorem keepsFirst_registerEach (hfirst : FirstOfEach offered (entries table))
    (later : List (String × α)) :
    KeepsFirst register duplicate (fun table => (entries table).map Prod.fst)
      (fun table name => (entries table).lookup name) (offered ++ later)
      (registerEach register table later) :=
  h.keepsFirst_of_firstOfEach (h.firstOfEach_registerEach hfirst later)

end TakesOnce

/-- A table takes each name once if it looks a name up in its entries before it appends one. -/
theorem takesOnce_of_eq {register : τ → String → α → Except SetupError τ}
    {duplicate : String → SetupError} {entries : τ → List (String × α)}
    (append : τ → String × α → τ)
    (hregister : ∀ table name value, register table name value =
      if ((entries table).lookup name).isSome then .error (duplicate name)
      else .ok (append table (name, value)))
    (happend : ∀ table e, entries (append table e) = entries table ++ [e]) :
    TakesOnce register duplicate entries where
  refuses table name value hname := by
    have hsome : ((entries table).lookup name).isSome := by
      rw [Option.isSome_iff_ne_none, Ne, lookup_eq_none_iff_notMem, not_not]
      exact hname
    rw [hregister, if_pos hsome]
  accepts table name value hname := by
    rw [hregister, lookup_eq_none_iff_notMem.mpr hname]
    exact ⟨_, if_neg Bool.false_ne_true, happend table (name, value)⟩

/-! ## Catalogs and registries -/

variable {ω π : Type}

theorem Catalog.takesOnce :
    TakesOnce (Catalog.register (ω := ω)) .duplicateActivity Catalog.entries :=
  takesOnce_of_eq (fun catalog e => ⟨catalog.entries ++ [e]⟩) (fun _ _ _ => rfl) fun _ _ => rfl

theorem Registry.takesOnce :
    TakesOnce (Registry.register (π := π)) .duplicateSource Registry.entries :=
  takesOnce_of_eq (fun registry e => ⟨registry.entries ++ [e]⟩) (fun _ _ _ => rfl) fun _ _ => rfl

/-- The entries of the built-in sources, where `make` says what stands for a source. -/
def Sources.builtInEntries (make : Source → π) : List (String × π) :=
  Sources.builtIn.entries.map fun e => (e.1, make e.2)

theorem Sources.firstOfEach_builtInEntries (make : Source → π) :
    FirstOfEach (builtInEntries make) (builtInEntries make) := ⟨rfl, fun _ => rfl⟩

/-- A source that has to be registered is the first one of its name. -/
theorem Registry.require_of_keepsFirst {offered : List (String × π)} {registry : Registry π}
    (h : KeepsFirst Registry.register .duplicateSource Registry.names Registry.get? offered
      registry) (name : String) :
    (registry.require name = .error (.unknownSource name) ↔ name ∉ offered.map Prod.fst) ∧
      ∀ source, registry.require name = .ok source ↔
        ∃ place, FirstIn offered (fun e => e.1 = name) place (name, source) := by
  rw [← h.get?_eq_none_iff]
  simp only [← h.get?_eq_some_iff, require]
  cases registry.get? name with
  | none => simp
  | some source => simp

/-- Whatever entries are offered to an empty catalog, to an empty registry or to one with the
built-in sources, one after the other: the next registration is refused, with a complaint about
its name, just if the name was offered before, to whatever end, or is built in, and then it
changes nothing. The names are those offered, each once and in the order of their first entries.
A lookup finds what the first entry of a name supplied, and nothing if there was none; a registry
then says that it does not know the name. -/
theorem registration_keeps_first :
    (∀ offered : List (String × Activity ω),
      KeepsFirst Catalog.register .duplicateActivity Catalog.names Catalog.get? offered
        (registerEach Catalog.register .empty offered)) ∧
    (∀ offered : List (String × π),
      KeepsFirst Registry.register .duplicateSource Registry.names Registry.get? offered
        (registerEach Registry.register ⟨[]⟩ offered)) ∧
    (∀ (make : Source → π) (offered : List (String × π)),
      KeepsFirst Registry.register .duplicateSource Registry.names Registry.get?
        (Sources.builtInEntries make ++ offered)
        (registerEach Registry.register ⟨Sources.builtInEntries make⟩ offered)) ∧
    ∀ (offered : List (String × π)) (registry : Registry π),
      KeepsFirst Registry.register .duplicateSource Registry.names Registry.get? offered registry →
      ∀ name,
        (registry.require name = .error (.unknownSource name) ↔ name ∉ offered.map Prod.fst) ∧
        ∀ source, registry.require name = .ok source ↔
          ∃ place, FirstIn offered (fun e => e.1 = name) place (name, source) :=
  ⟨Catalog.takesOnce.keepsFirst_registerEach .nil, Registry.takesOnce.keepsFirst_registerEach .nil,
    fun make => Registry.takesOnce.keepsFirst_registerEach
      (Sources.firstOfEach_builtInEntries make),
    fun _ _ h => Registry.require_of_keepsFirst h⟩

/-- Of four activities, two of them under one name, three are registered. A registry with the
built-in sources takes a name of its own, refuses it the second time, and refuses one that is
built in. Names are compared with their case. -/
theorem registration_keeps_first_four :
    let silent : Activity Unit := fun _ => .done (.ok .null)
    let catalog := registerEach Catalog.register .empty
      [("b", Activity.echo), ("a", silent), ("b", silent), ("c", Activity.echo)]
    let things : Source := .collection "custom" "things"
    let registry := registerEach Registry.register Sources.builtIn
      [("runs", .runs), ("document", things), ("runs", things)]
    catalog.names = ["b", "a", "c"] ∧ catalog.get? "b" = some Activity.echo ∧
      catalog.register "a" Activity.echo = .error (.duplicateActivity "a") ∧
      registry.names = ["document", "document_type", "interaction_run", "runs"] ∧
      registry.require "document" = .ok .documents ∧ registry.require "runs" = .ok .runs ∧
      registry.require "Runs" = .error (.unknownSource "Runs") := by
  intro silent catalog things registry
  obtain ⟨hcatalogs, -, hregistries, hrequire⟩ :=
    registration_keeps_first (ω := Unit) (π := Source)
  have hcatalog := hcatalogs
    [("b", Activity.echo), ("a", silent), ("b", silent), ("c", Activity.echo)]
  have hregistry := hregistries id [("runs", .runs), ("document", things), ("runs", things)]
  have hearlier : ∀ other < 3, ∀ e, (Sources.builtInEntries id ++
      [("runs", Source.runs), ("document", things), ("runs", things)])[other]? = some e →
        e.1 ≠ "runs" := by
    decide
  refine ⟨hcatalog.names_eq.trans (by decide),
    (hcatalog.get?_eq_some_iff "b" _).mpr ⟨0, rfl, rfl, by simp⟩,
    (hcatalog.refused_iff "a" _ _).mpr ⟨by decide, rfl⟩,
    hregistry.names_eq.trans (by decide),
    ((hrequire _ _ hregistry "document").2 _).mpr ⟨0, rfl, rfl, by simp⟩,
    ((hrequire _ _ hregistry "runs").2 _).mpr ⟨3, rfl, rfl, hearlier⟩,
    (hrequire _ _ hregistry "Runs").1.mpr (by decide)⟩

end ActivityFlow
