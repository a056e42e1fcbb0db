import ActivityFlow.Decoding
import ActivityFlow.Payload.Codec

/-!
# Requests for records

A request names the kind of records that it wants; what reaches a collection of the
store is the query without that name.
-/
namespace ActivityFlow

open Decoding

/-- What is asked of one collection of the store. -/
structure CollectionQuery where
  filter : Fields
  limit : Option Nat
  /-- The parts of a record that are wanted, separated by blanks. -/
  select : Option String
deriving DecidableEq

instance : Inhabited CollectionQuery := ⟨⟨[], none, none⟩⟩

/-- A request for records of some kind. -/
structure RecordRequest where
  source : String
  filter : Fields
  limit : Option Nat
  select : Option String
deriving DecidableEq

/-- The entry of an optional part, absent when there is none. -/
def optionalField (key : String) (encode : α → Json) : Option α → Fields
  | none => []
  | some value => [(key, encode value)]

namespace CollectionQuery

def ofFields (fields : Fields) : Result CollectionQuery := do
  let limit ← field? fields "limit" (asOptional asCount)
  let filter ← field? fields "query" asFields
  let select ← field? fields "select" (asOptional asText)
  return ⟨filter.getD [], limit.join, select.join⟩

def ofItems (items : List Json) : Result CollectionQuery := do
  let filter ← itemD items 0 [] asFields
  let limit ← itemD items 1 none (asOptional asCount)
  let select ← itemD items 2 none (asOptional asText)
  noMore .direct items 3
  return ⟨filter, limit, select⟩

def decode : Json → Result CollectionQuery := record "StoreQuery" ofFields ofItems

def encode (q : CollectionQuery) : Json :=
  .object (optionalField "limit" (fun n => .int n) q.limit ++ ("query", .object q.filter) ::
    optionalField "select" .text q.select)

end CollectionQuery

namespace RecordRequest

def ofFields (fields : Fields) : Result RecordRequest := do
  let limit ← field? fields "limit" (asOptional asCount)
  let filter ← field? fields "query" asFields
  let select ← field? fields "select" (asOptional asText)
  let source ← field? fields "type" asText
  return ⟨← required "type" source, filter.getD [], limit.join, select.join⟩

def ofItems (items : List Json) : Result RecordRequest := do
  let source ← item items 0 (.recordOf "FetchSpec" 4) asText
  let filter ← itemD items 1 [] asFields
  let limit ← itemD items 2 none (asOptional asCount)
  let select ← itemD items 3 none (asOptional asText)
  noMore .direct items 4
  return ⟨source, filter, limit, select⟩

def decode : Json → Result RecordRequest := record "FetchSpec" ofFields ofItems

def encode (r : RecordRequest) : Json :=
  .object (optionalField "limit" (fun n => .int n) r.limit ++ ("query", .object r.filter) ::
    (optionalField "select" .text r.select ++ [("type", .text r.source)]))

end RecordRequest

/-! ## Identifiers in filters -/

/-- The identifier's name in requests. -/
def genericIdKey : String := "id"

/-- The identifier's name in the store. -/
def storeIdKey : String := "_id"

/-- Renames the identifier of a filter for the store. An identifier already under the
store's name wins. -/
def normalizeIdFilter (filter : Fields) : Fields :=
  match Fields.get? filter genericIdKey with
  | none => filter
  | some id =>
    let rest := Fields.erase filter genericIdKey
    if Fields.contains rest storeIdKey then rest else Fields.insert rest storeIdKey id

/-- The identifiers that a filter asks for: one text or an array of texts. -/
def idFilterValues (filter : Fields) : Option (List String) :=
  match Fields.get? filter storeIdKey with
  | some (.text id) => some [id]
  | some (.array ids) => ids.mapM Json.text?
  | _ => none

end ActivityFlow
