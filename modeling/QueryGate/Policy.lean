import QueryGate.AllowedFilters
import QueryGate.Extension
import QueryGate.Predicate
import QueryGate.Registry
import QueryGate.Resolver

/-! The policy of a resource: what a query may select, filter and sort, how its names become
columns, and which extensions complete its statements. -/
namespace QueryGate

structure Policy where
  resource : String
  resolver : Resolver
  defaultFields : List String
  /-- The columns that may be selected; if never listed, they are the default fields. -/
  selectable : Option NameSet
  alwaysSelect : List String
  selectAll : Bool
  sortable : NameSet
  filterable : AllowedFilters
  conditionOf : String → Except Error Condition
  parser : PredicateParser
  extensions : List Extension

namespace Policy

/-- A policy that allows nothing yet, with the built-in conditions and delimiters. -/
def new (resource : String) (resolver : Resolver) : Policy where
  resource := resource
  resolver := resolver
  defaultFields := []
  selectable := none
  alwaysSelect := []
  selectAll := false
  sortable := ∅
  filterable := ∅
  conditionOf := Registry.builtin.condition
  parser := (default : Delimiters).parser
  extensions := []

def withDefaultFields (policy : Policy) (fields : List String) : Policy :=
  { policy with defaultFields := fields }

/-- Allows more columns to be selected; an empty list ends the fallback to the default fields. -/
def allowSelecting (policy : Policy) (fields : List String) : Policy :=
  { policy with selectable := some ((policy.selectable.getD ∅).insertAll fields) }

/-- Allows sorting by more columns. -/
def allowSorting (policy : Policy) (fields : List String) : Policy :=
  { policy with sortable := policy.sortable.insertAll fields }

def withFilters (policy : Policy) (allowed : AllowedFilters) : Policy :=
  { policy with filterable := allowed }

def withRegistry (policy : Policy) (registry : Registry) : Policy :=
  { policy with conditionOf := registry.condition }

def withParser (policy : Policy) (parser : PredicateParser) : Policy :=
  { policy with parser := parser }

def withAlwaysSelect (policy : Policy) (fields : List String) : Policy :=
  { policy with alwaysSelect := fields }

def withSelectAll (policy : Policy) (flag : Bool) : Policy := { policy with selectAll := flag }

def extend (policy : Policy) (extension : Extension) : Policy :=
  { policy with extensions := policy.extensions ++ [extension] }

/-- The columns that may be selected. -/
def selectableColumns (policy : Policy) : NameSet :=
  policy.selectable.getD (.ofList policy.defaultFields)

end Policy

end QueryGate
