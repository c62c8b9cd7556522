import QueryGate.Query
import QueryGate.SortTerm.Json

/-! Queries in JSON. Fields of a query and of a page may be missing; a filter needs both of its
fields, and a sort directive needs its field name. -/
namespace QueryGate

open Document

def Filter.toJson (filter : Filter) : String :=
  Json.writeObject
    [("field", Json.writeString filter.field), ("predicate", Json.writeString filter.predicate)]

def Filter.ofDocument (document : Document) : Option Filter := do
  match ← document.fields? Json.spelling ["field", "predicate"] with
  | [some field, some predicate] => return ⟨← field.text?, ← predicate.text?⟩
  | _ => none

def SortDirective.toJson (directive : SortDirective) : String :=
  Json.writeObject
    [("field", Json.writeString directive.field), ("direction", directive.direction.toJson)]

def SortDirective.ofDocument (document : Document) : Option SortDirective := do
  match ← document.fields? Json.spelling ["field", "direction"] with
  | [some field, direction] =>
    return ⟨← field.text?, ← field? default SortDirection.ofDocument direction⟩
  | _ => none

def Page.toJson (page : Page) : String :=
  Json.writeObject
    [ ("limit", Json.writeOption Json.writeString page.limit),
      ("offset", Json.writeOption Json.writeString page.offset),
      ("number", Json.writeOption Json.writeString page.number) ]

def Page.ofDocument (document : Document) : Option Page := do
  match ← document.fields? Json.spelling ["limit", "offset", "number"] with
  | [limit, offset, number] =>
    return {
      limit := ← field? none (optional? text?) limit
      offset := ← field? none (optional? text?) offset
      number := ← field? none (optional? text?) number }
  | _ => none

namespace Query

def toJson (query : Query) : String :=
  let fields := query.fields.entries.map fun (resource, names) =>
    (resource, Json.writeStrings names)
  Json.writeObject
    [ ("fields", Json.writeObject fields),
      ("filters", Json.writeArray (query.filters.map Filter.toJson)),
      ("sort", Json.writeArray (query.sort.map SortDirective.toJson)),
      ("page", Json.writeOption Page.toJson query.page) ]

def ofDocument (document : Document) : Option Query := do
  match ← document.fields? Json.spelling ["fields", "filters", "sort", "page"] with
  | [fields, filters, sort, page] =>
    return {
      fields := ← field? ∅ (table? texts?) fields
      filters := ← field? [] (list? Filter.ofDocument) filters
      sort := ← field? [] (list? SortDirective.ofDocument) sort
      page := ← field? none (optional? Page.ofDocument) page }
  | _ => none

/-- Reads a query from a JSON text. -/
def ofJson (text : String) : Option Query := (Json.readDocument text).bind ofDocument

end Query

end QueryGate
