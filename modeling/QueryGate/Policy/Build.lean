import QueryGate.Policy
import QueryGate.Select.Render
import QueryGate.Trace

/-! Queries turned into statements under a policy. The columns are resolved first, then every
filter is checked and applied completely before the next one, then the sort directives as one
batch, and at last the extensions run in order. The first failure decides the error. -/
namespace QueryGate.Policy

/-- Columns must be returned one for one. -/
def resolve (policy : Policy) : Resolver := policy.resolver.exact

/-- The column of a single name. -/
def resolveOne (policy : Policy) (name : String) : Except Error String := do
  return (← policy.resolve [name]).headD ""

/-- The columns that a query leads to before they are checked: those it asks for, or the default
fields, and then those that are always selected, each once. -/
def candidates (policy : Policy) (query : Query) : Except Error (List String) := do
  let requested ← match query.fieldsFor policy.resource with
    | some fields => policy.resolve fields
    | none => .ok policy.defaultFields
  return (NameSet.ofList (requested ++ policy.alwaysSelect)).names

/-- Refuses the first column that may not be selected. -/
def checkColumns (policy : Policy) (columns : List String) : Except Error (List String) :=
  match columns.find? fun column => !policy.selectableColumns.contains column with
  | some column => .error (.fieldNotAllowed column .select)
  | none => .ok columns

/-- The columns of a query's statement. They are checked even where all are selected. -/
def columns (policy : Policy) (query : Query) : Except Error (List String) := do
  let columns ← if policy.selectAll then .ok policy.selectableColumns.names
    else policy.candidates query
  policy.checkColumns columns

/-- The condition that a filter stands for. -/
def filterCondition (policy : Policy) (filter : Filter) : Except Error Expr :=
  match policy.filterable.operations? filter.field with
  | none => .error (.filteringNotPermitted filter.field none)
  | some operations => do
    let column ← policy.resolveOne filter.field
    let predicate ← policy.parser filter.predicate
    if operations.contains predicate.operation then
      let condition ← policy.conditionOf predicate.operation
      condition column predicate.args
    else throw (.filteringNotPermitted filter.field (some predicate.operation))

/-- The conditions of a query, filter by filter. -/
def conditions (policy : Policy) (query : Query) : Except Error (List Expr) :=
  query.filters.mapM policy.filterCondition

/-- The sort term of a directive whose column is known. -/
def sortTerm (policy : Policy) (directive : SortDirective) (column : String) :
    Except Error SortTerm :=
  if policy.sortable.contains column then .ok ⟨column, directive.direction⟩
  else .error (.fieldNotAllowed directive.field .sort)

/-- The sort terms of a query. All names are resolved before any column is checked. -/
def sortTerms (policy : Policy) (query : Query) : Except Error (List SortTerm) :=
  if query.sort.isEmpty then .ok []
  else do
    let columns ← policy.resolve (query.sort.map SortDirective.field)
    (query.sort.zip columns).mapM fun (directive, column) => policy.sortTerm directive column

/-- Adds the conditions of a query to a statement, and then reports its filters. -/
def applyFilters (policy : Policy) (query : Query) (select : Select) : Logged Error Select := do
  let conditions ← Logged.quiet (policy.conditions query)
  Logged.report (.filtersApplied policy.resource query.filters.length)
  return select.addConditions conditions

/-- Puts the statement of a query together, stage by stage. The sort directives are no stage of
their own in the report. -/
def assemble (policy : Policy) (context : Context) (query : Query) (select : Select) :
    Logged Error Select := do
  let columns ← Logged.quiet (policy.columns query)
  Logged.report (.columnsSelected policy.resource columns.length)
  let filtered ← policy.applyFilters query
    ((select.selectNames columns).readFrom policy.resource)
  let terms ← Logged.quiet (policy.sortTerms query)
  let extended ← Logged.quiet
    (Extension.runAll policy.extensions context query (filtered.orderBy terms))
  Logged.report (.extensionsRun policy.resource policy.extensions.length)
  return extended

/-- A build with the events that it reports. A failure of any stage is the last of them. -/
def run (policy : Policy) (context : Context) (query : Query) (select : Select) :
    Logged Error Select :=
  (policy.assemble context query select).reportFailure (.rejected policy.resource)

/-- The statement of a query, built onto one that is supplied. -/
def build (policy : Policy) (context : Context) (query : Query)
    (supplied : Option Select := none) : Except Error Select :=
  (policy.run context query (supplied.getD .empty)).result

/-- A build without its events: the stages one after the other. -/
theorem build_eq (policy : Policy) (context : Context) (query : Query)
    (supplied : Option Select) :
    policy.build context query supplied = (do
      let columns ← policy.columns query
      let conditions ← policy.conditions query
      let terms ← policy.sortTerms query
      Extension.runAll policy.extensions context query
        (((((supplied.getD .empty).selectNames columns).readFrom policy.resource).addConditions
          conditions).orderBy terms)) := by
  simp [build, run, assemble, applyFilters]

end QueryGate.Policy

namespace QueryGate.Select

/-- A rendering with the event that it reports when it succeeds. -/
def buildTraced (select : Select) (dialect : Dialect) : Logged RenderError Statement := do
  let statement ← Logged.quiet (select.build dialect)
  Logged.report (.rendered dialect statement.text statement.params.length)
  return statement

end QueryGate.Select
