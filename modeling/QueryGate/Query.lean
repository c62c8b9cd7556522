import QueryGate.SortTerm
import QueryGate.Table

/-! A parsed query: the fields it asks for, by resource, its filters and sort directives, and its
page. -/
namespace QueryGate

/-- A field with the predicate that its rows must satisfy. -/
structure Filter where
  field : String
  predicate : String
  deriving DecidableEq

structure SortDirective where
  field : String
  direction : SortDirection
  deriving DecidableEq

/-- The page of a query, in the words of the request. -/
structure Page where
  limit : Option String := none
  offset : Option String := none
  number : Option String := none
  deriving DecidableEq

structure Query where
  fields : Table (List String) := ∅
  filters : List Filter := []
  sort : List SortDirective := []
  page : Option Page := none
  deriving DecidableEq

namespace Query

instance : Inhabited Query := ⟨{}⟩

/-- Asks for fields of a resource, in place of what was asked for before. -/
def withFields (query : Query) (resource : String) (fields : List String) : Query :=
  { query with fields := query.fields.insert resource fields }

def withFilter (query : Query) (field predicate : String) : Query :=
  { query with filters := query.filters ++ [⟨field, predicate⟩] }

def withSort (query : Query) (field : String) (direction : SortDirection) : Query :=
  { query with sort := query.sort ++ [⟨field, direction⟩] }

def withPage (query : Query) (page : Page) : Query := { query with page := some page }

/-- The fields asked for, if the query names the resource at all. -/
def fieldsFor (query : Query) (resource : String) : Option (List String) :=
  query.fields.find? resource

end Query

end QueryGate
