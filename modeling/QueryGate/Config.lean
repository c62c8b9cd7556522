import QueryGate.Extension.Paging
import QueryGate.Policy
import QueryGate.Text.Quoted

/-! The policy of a resource declared as data. A configuration becomes a policy only if it names
its resource and lists no operation that is not registered, so its queries never meet an
undefined one. -/
namespace QueryGate

/-- How the names of a query become columns. -/
inductive Naming where
  | map
  | snakeCase
  deriving DecidableEq

/-- Which page values a resource reads, and their maxima. -/
inductive PageStyle where
  | limitOffset (maxLimit maxOffset : Option UInt64)
  | limitNumber (maxLimit : Option UInt64)
  deriving DecidableEq

structure Config where
  resource : String := ""
  naming : Naming := .map
  columns : Table String := ∅
  qualifier : Option String := none
  defaultFields : List String := []
  allowedSelect : Option (List String) := none
  alwaysSelect : List String := []
  alwaysSelectAll : Bool := false
  allowedSort : List String := []
  allowedConditions : Table (List String) := ∅
  delimiters : Delimiters := {}
  pagination : Option PageStyle := none
  defaultLimit : Option UInt64 := none

/-- Why a configuration is refused. -/
inductive ConfigError where
  | missingResource
  | unknownOperation (field operation : String)
  deriving DecidableEq

def ConfigError.message : ConfigError → String
  | missingResource => "resource name must not be empty"
  | unknownOperation field operation =>
    "field " ++ Text.quoted field ++ " allows operation " ++ Text.quoted operation
      ++ ", which is not registered"

def PageStyle.rule : PageStyle → PageRule
  | limitOffset maxLimit maxOffset => .limitOffset maxLimit maxOffset
  | limitNumber maxLimit => .limitNumber maxLimit

namespace Config

def resolver (config : Config) : Resolver :=
  match config.naming with
  | .map => Resolver.ofTable config.columns
  | .snakeCase => Resolver.snakeCase config.qualifier

def filters (config : Config) : AllowedFilters := .ofList config.allowedConditions.entries

/-- The page is read before the default limit is set, so that it takes precedence. -/
def pageRules (config : Config) : List PageRule :=
  (config.pagination.map PageStyle.rule).toList
    ++ (config.defaultLimit.map PageRule.defaultLimit).toList

/-- The policy of a configuration, over the operations of a registry. The first operation that
is not registered decides the error. -/
def policy (config : Config) (registry : Registry := .builtin) : Except ConfigError Policy :=
  if config.resource = "" then .error .missingResource
  else match config.filters.pairs.find? fun (_, operation) => !registry.contains operation with
    | some (field, operation) => .error (.unknownOperation field operation)
    | none => .ok {
        resource := config.resource
        resolver := config.resolver
        defaultFields := config.defaultFields
        selectable := config.allowedSelect.map NameSet.ofList
        alwaysSelect := config.alwaysSelect
        selectAll := config.alwaysSelectAll
        sortable := .ofList config.allowedSort
        filterable := config.filters
        conditionOf := registry.condition
        parser := config.delimiters.parser
        extensions := config.pageRules.map PageRule.extension }

end Config

end QueryGate
