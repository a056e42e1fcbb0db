import ActivityFlow.Records
import ActivityFlow.Proofs.Document.Faithful

/-!
# Requests for records survive their documents

A part of a request that is missing has no entry, and an entry that is missing is read as a
missing part.
-/
namespace ActivityFlow

open Decoding

theorem join_map_some {α : Type} (o : Option α) : (o.map some).join = o := by
  cases o with
  | none => rfl
  | some x => rfl

namespace CollectionQuery

/-- A query whose filter can be written and whose limit is a word of 64 bits. -/
structure Valid (q : CollectionQuery) : Prop where
  filter : q.filter.WellFormed
  limit : ∀ n ∈ q.limit, n < words64

theorem valid_of_ofFields {fields : Fields} {q : CollectionQuery} (hfields : fields.WellFormed)
    (h : ofFields fields = .ok q) : q.Valid := by
  simp only [ofFields, bind_eq_ok, pure_eq_ok] at h
  obtain ⟨limit, hlimit, filter, hfilter, _, -, rfl⟩ := h
  exact ⟨valid_getD (faithful_asFields.sound.field? hfields hfilter) .nil,
    valid_join (faithful_asCount.sound.optional.field? hfields hlimit)⟩

theorem valid_of_ofItems {items : List Json} {q : CollectionQuery}
    (hitems : ∀ v ∈ items, v.WellFormed) (h : ofItems items = .ok q) : q.Valid := by
  simp only [ofItems, bind_eq_ok, pure_eq_ok] at h
  obtain ⟨filter, hfilter, limit, hlimit, _, -, _, -, rfl⟩ := h
  exact ⟨faithful_asFields.sound.itemD hitems .nil hfilter,
    faithful_asCount.sound.optional.itemD hitems (by simp) hlimit⟩

def toFields (q : CollectionQuery) : Fields :=
  optionalField "limit" (fun n => .int n) q.limit ++ ("query", .object q.filter) ::
    optionalField "select" .text q.select

theorem toFields_wellFormed {q : CollectionQuery} (h : q.Valid) : q.toFields.WellFormed := by
  obtain ⟨filter, limit, select⟩ := q
  obtain ⟨hfilter, hlimit⟩ := h
  cases limit with
  | none =>
    cases select with
    | none => exact .of_keys ["query"] rfl (by decide) ⟨hfilter, trivial⟩
    | some s => exact .of_keys ["query", "select"] rfl (by decide) ⟨hfilter, .text s, trivial⟩
  | some n =>
    have hn := faithful_asCount.wellFormed n (hlimit n rfl)
    cases select with
    | none => exact .of_keys ["limit", "query"] rfl (by decide) ⟨hn, hfilter, trivial⟩
    | some s =>
      exact .of_keys ["limit", "query", "select"] rfl (by decide) ⟨hn, hfilter, .text s, trivial⟩

theorem get?_limit_toFields (q : CollectionQuery) :
    Fields.get? q.toFields "limit" = q.limit.map fun n : Nat => .int n := by
  obtain ⟨filter, limit, select⟩ := q
  cases limit <;> cases select <;> rfl

theorem get?_select_toFields (q : CollectionQuery) :
    Fields.get? q.toFields "select" = q.select.map .text := by
  obtain ⟨filter, limit, select⟩ := q
  cases limit <;> cases select <;> rfl

theorem get?_query_toFields (q : CollectionQuery) :
    Fields.get? q.toFields "query" = some (.object q.filter) := by
  obtain ⟨filter, limit, select⟩ := q
  cases limit <;> cases select <;> rfl

/-- A query is read from every object in which its parts are found, and the missing ones are
not. -/
theorem ofFields_of_get? {fields : Fields} {q : CollectionQuery} (h : q.Valid)
    (hget : ∀ key ∈ ["limit", "query", "select"],
      Fields.get? fields key = Fields.get? q.toFields key) : ofFields fields = .ok q := by
  have hlimit : field? fields "limit" (asOptional asCount) = .ok (q.limit.map some) :=
    faithful_asCount.field?_optional (fun _ => rfl)
      ((hget "limit" (by simp)).trans q.get?_limit_toFields) h.limit
  have hselect : field? fields "select" (asOptional asText) = .ok (q.select.map some) :=
    faithful_asText.field?_optional (fun _ => rfl)
      ((hget "select" (by simp)).trans q.get?_select_toFields) fun _ _ => trivial
  have hfilter : field? fields "query" asFields = .ok (some q.filter) := by
    rw [field?, hget "query" (by simp), q.get?_query_toFields]
    rfl
  rw [ofFields, hlimit, hfilter, hselect]
  simp only [ok_bind, join_map_some]
  rfl

theorem faithful : Faithful decode encode Valid :=
  faithful_record "StoreQuery" (fun _ _ => valid_of_ofFields) (fun _ _ => valid_of_ofItems)
    (fun _ => toFields_wellFormed) fun _ h => ofFields_of_get? h fun _ _ => rfl

end CollectionQuery

namespace RecordRequest

/-- What a request asks of a collection, word for word. -/
def query (r : RecordRequest) : CollectionQuery := ⟨r.filter, r.limit, r.select⟩

/-- A request whose query can be written. -/
def Valid (r : RecordRequest) : Prop := r.query.Valid

/-- A request is read as its query and the name of its source. -/
theorem ofFields_eq (fields : Fields) : ofFields fields = do
    let q ← CollectionQuery.ofFields fields
    let source ← field? fields "type" asText
    return ⟨← required "type" source, q.filter, q.limit, q.select⟩ := by
  simp only [ofFields, CollectionQuery.ofFields, bind_assoc, pure_bind]

theorem valid_of_ofFields {fields : Fields} {r : RecordRequest} (hfields : fields.WellFormed)
    (h : ofFields fields = .ok r) : r.Valid := by
  simp only [ofFields_eq, bind_eq_ok, pure_eq_ok] at h
  obtain ⟨q, hq, _, -, _, -, rfl⟩ := h
  exact CollectionQuery.valid_of_ofFields hfields hq

theorem valid_of_ofItems {items : List Json} {r : RecordRequest}
    (hitems : ∀ v ∈ items, v.WellFormed) (h : ofItems items = .ok r) : r.Valid := by
  simp only [ofItems, bind_eq_ok, pure_eq_ok] at h
  obtain ⟨_, -, filter, hfilter, limit, hlimit, _, -, _, -, rfl⟩ := h
  exact ⟨faithful_asFields.sound.itemD hitems .nil hfilter,
    faithful_asCount.sound.optional.itemD hitems (by simp) hlimit⟩

def toFields (r : RecordRequest) : Fields :=
  optionalField "limit" (fun n => .int n) r.limit ++ ("query", .object r.filter) ::
    (optionalField "select" .text r.select ++ [("type", .text r.source)])

theorem toFields_eq_insert (r : RecordRequest) :
    r.toFields = Fields.insert r.query.toFields "type" (.text r.source) := by
  obtain ⟨source, filter, limit, select⟩ := r
  cases limit <;> cases select <;> rfl

theorem toFields_wellFormed {r : RecordRequest} (h : r.Valid) : r.toFields.WellFormed := by
  rw [toFields_eq_insert]
  exact (CollectionQuery.toFields_wellFormed h).insert "type" (.text r.source)

theorem ofFields_toFields {r : RecordRequest} (h : r.Valid) : ofFields r.toFields = .ok r := by
  have hquery : CollectionQuery.ofFields r.toFields = .ok r.query := by
    refine CollectionQuery.ofFields_of_get? h ?_
    intro key hkey
    rw [toFields_eq_insert, Fields.get?_insert_of_ne]
    rintro rfl
    simp at hkey
  have hsource : field? r.toFields "type" asText = .ok (some r.source) := by
    rw [field?, toFields_eq_insert, Fields.get?_insert_self]
    rfl
  rw [ofFields_eq, hquery, ok_bind, hsource]
  rfl

theorem faithful : Faithful decode encode Valid :=
  faithful_record "FetchSpec" (fun _ _ => valid_of_ofFields) (fun _ _ => valid_of_ofItems)
    (fun _ => toFields_wellFormed) fun _ => ofFields_toFields

end RecordRequest

end ActivityFlow
