import ActivityFlow.Proofs.Sources.Runs

/-!
# Identifiers in requests

A request may give the identifier that it filters by under the generic name or under the name that
the store has for it. Whatever becomes of a request, the name is the store's by then, and nothing
else of the filter has changed. So two requests that differ in this name alone are the same to
every source, and a queryable source asks the store for exactly what was requested.
-/
namespace ActivityFlow

/-! ## Filters -/

/-- The identifier of a filter is renamed once at most. -/
theorem normalizeIdFilter_normalizeIdFilter (filter : Fields) :
    normalizeIdFilter (normalizeIdFilter filter) = normalizeIdFilter filter := by
  have hgeneric : Fields.get? (normalizeIdFilter filter) genericIdKey = none := by
    rw [get?_normalizeIdFilter, if_pos rfl]
  rcases normalizeIdFilter_cases (normalizeIdFilter filter) with ⟨-, heq⟩ | ⟨id, hid, -⟩
  · exact heq
  · rw [hgeneric] at hid
    cases hid

/-- Two requests that differ at most in the name of the identifier that they filter by: the first
has it, if at all, under the generic name and the second under the name in the store. -/
structure RenamedIdentifier (generic stored : RecordRequest) : Prop where
  source_eq : stored.source = generic.source
  limit_eq : stored.limit = generic.limit
  select_eq : stored.select = generic.select
  no_store_key : Fields.get? generic.filter storeIdKey = none
  no_generic_key : Fields.get? stored.filter genericIdKey = none
  identifier_eq : Fields.get? stored.filter storeIdKey = Fields.get? generic.filter genericIdKey
  others_eq : ∀ key, key ≠ genericIdKey → key ≠ storeIdKey →
    Fields.get? stored.filter key = Fields.get? generic.filter key

theorem RenamedIdentifier.normalizeIdFilter_eq {generic stored : RecordRequest}
    (h : RenamedIdentifier generic stored) (hgeneric : Fields.Ascending generic.filter)
    (hstored : Fields.Ascending stored.filter) :
    normalizeIdFilter stored.filter = normalizeIdFilter generic.filter := by
  refine (ascending_normalizeIdFilter hstored).ext (ascending_normalizeIdFilter hgeneric) ?_
  intro key
  rw [get?_normalizeIdFilter, get?_normalizeIdFilter]
  by_cases hkey : key = genericIdKey
  · rw [if_pos hkey, if_pos hkey]
  rw [if_neg hkey, if_neg hkey]
  by_cases hid : key = storeIdKey
  · rw [if_pos hid, if_pos hid, h.no_generic_key, h.no_store_key, h.identifier_eq, Option.or_none,
      Option.none_or]
  · rw [if_neg hid, if_neg hid, h.others_eq key hkey hid]

/-! ## Sources -/

/-- A noted operation runs as it does alone, and its notes are its beginning and its end. -/
theorem run_noteOperation {ω α : Type} (operation : StoreOperation) (answer : α → Json)
    (p : Routine ω (Except Failure α)) (clock : Clock) (world : ω) (log : List StoreEvent) :
    (noteOperation operation answer p).run clock (world, log) =
      let finish := p.run ⟨clock.now, clock.turn + 1⟩ world
      ⟨finish.value, ⟨finish.clock.now, finish.clock.turn + 1⟩, (finish.state,
        log ++ [.began operation, .ended operation (finish.value.map answer)])⟩ := by
  have hwork := Routine.run_focus Prod.fst
    (fun world (noted : ω × List StoreEvent) => (world, noted.2))
    (fun _ _ => rfl) (fun _ _ _ => rfl) (fun _ => rfl) p ⟨clock.now, clock.turn + 1⟩
    (world, log ++ [.began operation])
  simp only [noteOperation, noteEnd, noteEvent, Routine.run_bind, Routine.run_modify, hwork,
    Routine.run, List.append_assoc, List.singleton_append]

namespace Source

/-- A source depends on a request through its normalized filter, its limit and its selection. -/
theorem fetch_congr {ω : Type} {r other : RecordRequest}
    (hfilter : normalizeIdFilter other.filter = normalizeIdFilter r.filter)
    (hlimit : other.limit = r.limit) (hselect : other.select = r.select) (source : Source)
    (store : Store ω) : source.fetch store other = source.fetch store r := by
  cases source with
  | collection id name => simp only [fetch, collectionQuery, hfilter, hlimit, hselect]
  | runs =>
    have hids : requestedIds other = requestedIds r := by
      simp only [requestedIds, hfilter, hlimit]
    simp only [fetch, hids, hselect]

/-- The normalized filter of a request has no identifier under the generic name. Under the store's
name it has the one that the request gives under this name, or else the one under the generic name,
and all else is as in the request; normalizing it again changes nothing. A source over a collection,
such as the two queryable ones among the built-in sources, asks the store once, for records of its
collection by this filter with the limit and the selection of the request, and ends as the store
answers. Requests that name the identifier differently and are otherwise the same are the same
routine to every source over every store, a noting one as well. -/
theorem fetch_normalized (r : RecordRequest) (h : Fields.Ascending r.filter) :
    let filter := normalizeIdFilter r.filter
    (Fields.Ascending filter ∧ Fields.get? filter "id" = none ∧
      Fields.get? filter "_id" = (Fields.get? r.filter "_id").or (Fields.get? r.filter "id") ∧
      (∀ key, key ≠ "id" → key ≠ "_id" → Fields.get? filter key = Fields.get? r.filter key) ∧
      normalizeIdFilter filter = filter) ∧
    Sources.builtIn.entries.filter (fun e => e.2.supportsQuery) =
      [("document", .collection "document" "objects"),
        ("document_type", .collection "document_type" "types")] ∧
    (∀ (id name : String) (ω : Type) (store : Store ω),
      let query : CollectionQuery := ⟨filter, r.limit, r.select⟩
      (collection id name).fetch store r = store.find name query ∧
      ∀ clock world,
        let answer := (store.find name query).run ⟨clock.now, clock.turn + 1⟩ world
        let finish := ((collection id name).fetch store.noting r).run clock (world, [])
        finish.value = answer.value ∧
        finish.state = (answer.state, [.began (.find name query),
          .ended (.find name query) (answer.value.map .array)])) ∧
    ∀ other : RecordRequest, Fields.Ascending other.filter →
      RenamedIdentifier r other ∨ RenamedIdentifier other r →
      ∀ (source : Source) (ω : Type) (store : Store ω),
        source.fetch store other = source.fetch store r := by
  intro filter
  have hget := get?_normalizeIdFilter r.filter
  refine ⟨⟨ascending_normalizeIdFilter h, ?_, ?_, ?_, normalizeIdFilter_normalizeIdFilter _⟩, rfl,
    ?_, ?_⟩
  · exact (hget genericIdKey).trans (if_pos rfl)
  · exact (hget storeIdKey).trans (if_neg (by decide))
  · intro key hgeneric hstore
    exact (hget key).trans ((if_neg hgeneric).trans (if_neg hstore))
  · intro id name ω store query
    refine ⟨rfl, fun clock world => ?_⟩
    have hrun := run_noteOperation (.find name query) .array (store.find name query) clock world []
    rw [show (collection id name).fetch store.noting r =
      noteOperation (.find name query) .array (store.find name query) from rfl, hrun]
    exact ⟨rfl, rfl⟩
  · intro other hother hrenamed source ω store
    rcases hrenamed with hrenamed | hrenamed
    · exact fetch_congr (hrenamed.normalizeIdFilter_eq h hother) hrenamed.limit_eq
        hrenamed.select_eq source store
    · exact (fetch_congr (hrenamed.normalizeIdFilter_eq hother h) hrenamed.limit_eq
        hrenamed.select_eq source store).symm

/-- A request for documents by a generic identifier and a further filter. It is normalized as if it
had named the identifier like the store, and so is the request for interaction runs, which both
names decline for the further filter. An identifier that is null still wins over a generic one. -/
theorem fetch_normalized_ready :
    let r : RecordRequest :=
      ⟨"document", [("id", .text "doc-1"), ("status", .text "ready")], some 5, none⟩
    let other : RecordRequest :=
      ⟨"document", [("_id", .text "doc-1"), ("status", .text "ready")], some 5, none⟩
    let both : RecordRequest := ⟨"document", [("_id", .null), ("id", .text "doc-1")], none, none⟩
    let store : Store Nat := ⟨fun _ _ => Routine.transact fun _ made =>
      (.ok [.int made, .null], made + 1), fun _ _ _ => .done (.ok .null)⟩
    let finish := (documents.fetch store.noting r).run ⟨0, 0⟩ (7, [])
    let asked : StoreOperation := .find "objects" ⟨other.filter, some 5, none⟩
    Fields.Ascending r.filter ∧ Fields.Ascending other.filter ∧ Fields.Ascending both.filter ∧
      RenamedIdentifier r other ∧ finish.value = .ok [.int 7, .null] ∧
      finish.state = (8, [.began asked, .ended asked (.ok (.array [.int 7, .null]))]) ∧
      (∀ source : Source, source.fetch store other = source.fetch store r) ∧
      Fields.get? (normalizeIdFilter both.filter) "_id" = some .null := by
  intro r other both store finish asked
  have hr : Fields.Ascending r.filter := by
    show (["id", "status"] : List String).Pairwise (· < ·)
    decide
  have hother : Fields.Ascending other.filter := by
    show (["_id", "status"] : List String).Pairwise (· < ·)
    decide
  have hboth : Fields.Ascending both.filter := by
    show (["_id", "id"] : List String).Pairwise (· < ·)
    decide
  have hrenamed : RenamedIdentifier r other := by
    refine ⟨rfl, rfl, rfl, by decide, by decide, by decide, fun key hgeneric hstore => ?_⟩
    show Fields.get? ((storeIdKey, .text "doc-1") :: [("status", .text "ready")]) key =
      Fields.get? ((genericIdKey, .text "doc-1") :: [("status", .text "ready")]) key
    simp only [Fields.get?_cons, if_neg (Ne.symm hstore), if_neg (Ne.symm hgeneric)]
  obtain ⟨-, -, hfetch, hsame⟩ := fetch_normalized r hr
  obtain ⟨hvalue, hstate⟩ := (hfetch "document" "objects" Nat store).2 ⟨0, 0⟩ 7
  obtain ⟨⟨-, -, hid, -⟩, -⟩ := fetch_normalized both hboth
  exact ⟨hr, hother, hboth, hrenamed, hvalue, hstate,
    fun source => hsame other hother (.inl hrenamed) source Nat store, hid⟩

end Source

end ActivityFlow
