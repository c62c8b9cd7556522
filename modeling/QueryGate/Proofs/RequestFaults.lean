import QueryGate.Proofs.ConfiguredPolicies
import QueryGate.Proofs.FilterRendering

/-! Who is at fault when a configured resource gives no statement. Every stage of a build fails for
reasons of the request alone, and what was built can fail to render only for want of columns. Such
an error blames the integration, and arises only where all columns of an empty list are selected or
where a query lists no field and nothing else is selected. -/
namespace QueryGate.RequestFaults
open ConfiguredPolicies FilterRendering FirstFailure Outcomes PolicyStages PageRule

/-- The statement of a query in a dialect: it is built from nothing and then rendered. -/
def answer (policy : Policy) (context : Context) (query : Query) (dialect : Dialect) :
    Except Error Statement :=
  policy.build context query >>= fun select => (select.build dialect).mapError .render

/-! Faults of stages -/

/-- If the result is an error, then one of the request. -/
def ClientFault {α : Type} (result : Except Error α) : Prop :=
  ∀ error, result = .error error → error.isClientError = true

/-- Whatever integrators supply to the policy fails for reasons of the request alone. -/
structure PartsBlameRequest (policy : Policy) : Prop where
  resolver : ∀ names, ClientFault (policy.resolver names)
  parser : ∀ text, ClientFault (policy.parser text)
  registry : ∀ operation, ClientFault (policy.conditionOf operation)
  conditions : ∀ operation make, policy.conditionOf operation = .ok make →
    ∀ column args, ClientFault (make column args)
  extensions : ∀ context query select,
    ClientFault (Extension.runAll policy.extensions context query select)

variable {policy : Policy}

/-- No check of a build blames the integration. -/
theorem build_fault (parts : PartsBlameRequest policy) (context : Context) (query : Query)
    (supplied : Option Select) : ClientFault (policy.build context query supplied) := by
  intro error failed
  cases source_of_build failed with
  | column => rfl
  | filter => rfl
  | count => rfl
  | resolver refused => exact parts.resolver _ _ refused
  | parser refused => exact parts.parser _ _ refused
  | registry _ refused => exact parts.registry _ _ refused
  | condition registered refused => exact parts.conditions _ _ registered _ _ _ refused
  | extensions failed => exact parts.extensions _ _ _ _ failed

/-! Configured policies -/

theorem configured_parts {config : Config} (accepted : config.policy = .ok policy) :
    PartsBlameRequest policy := by
  obtain rfl := policy_of_accepted accepted
  refine { resolver := ?_, parser := ?_, registry := ?_, conditions := ?_, extensions := ?_ }
  · intro names error refused
    obtain ⟨entry, rfl⟩ := unresolved_of_resolver refused
    rfl
  · intro text error refused
    cases refused
  · intro operation error refused
    obtain ⟨-, rfl⟩ := Registry.condition_eq_error_iff.mp refused
    rfl
  · intro operation make registered column args error refused
    obtain ⟨builtin, -, rfl⟩ := Registry.builtin_condition_eq_ok_iff.mp registered
    obtain ⟨fault, rfl⟩ := Builtin.refusal_of_condition refused
    rfl
  · intro context query select error failed
    rw [runAll_eq_act, map_eq_error_iff] at failed
    obtain ⟨fault, rfl⟩ := page_of_effects failed
    rfl

/-- Every column name of the configuration has some characters. -/
structure ColumnsNamed (config : Config) : Prop where
  defaultFields : ∀ name ∈ config.defaultFields, name ≠ ""
  allowedSelect : ∀ names, config.allowedSelect = some names → ∀ name ∈ names, name ≠ ""
  alwaysSelect : ∀ name ∈ config.alwaysSelect, name ≠ ""
  allowedSort : ∀ name ∈ config.allowedSort, name ≠ ""
  columns : ∀ entry ∈ config.columns.entries, entry.2 ≠ ""

/-- All columns are selected, but none is allowed to be. -/
def SelectsNothing (config : Config) : Prop :=
  config.alwaysSelectAll = true ∧ config.allowedSelect = some []

/-- The query asks for an empty list of fields, and nothing else is selected. -/
structure AsksForNothing (config : Config) (query : Query) : Prop where
  chosen : config.alwaysSelectAll = false
  unadded : config.alwaysSelect = []
  listed : query.fieldsFor config.resource = some []

/-- No column without a name may be selected. -/
theorem selectable_named {config : Config} (accepted : config.policy = .ok policy)
    (named : ColumnsNamed config) {column : String} (member : column ∈ policy.selectableColumns) :
    column ≠ "" := by
  rw [policy_of_accepted accepted, Policy.selectableColumns] at member
  dsimp only at member
  cases listed : config.allowedSelect with
  | none =>
    rw [listed] at member
    exact named.defaultFields column (NameSet.mem_ofList.mp member)
  | some names =>
    rw [listed] at member
    exact named.allowedSelect names listed column (NameSet.mem_ofList.mp member)

private theorem eq_nil_of_ofList {names : List String}
    (empty : (NameSet.ofList names).names = []) : names = [] := by
  refine List.eq_nil_iff_forall_not_mem.mpr fun name member => ?_
  have kept : name ∈ (NameSet.ofList names).names := NameSet.mem_ofList.mpr member
  rw [empty] at kept
  cases kept

/-- A query leads to no column at all only if all columns of an empty list are selected, or if it
asks for none and nothing else is selected. -/
theorem cause_of_no_columns {config : Config} (accepted : config.policy = .ok policy)
    (fields : config.defaultFields ≠ []) {query : Query}
    (resolved : policy.columns query = .ok []) :
    SelectsNothing config ∨ AsksForNothing config query := by
  have parts := policy_of_accepted accepted
  rw [columns_eq] at resolved
  split at resolved
  · rename_i all
    have empty := Except.ok.inj resolved
    rw [parts] at all empty
    dsimp only [Policy.selectableColumns] at all empty
    cases listed : config.allowedSelect with
    | none =>
      rw [listed] at empty
      exact absurd (eq_nil_of_ofList empty) fields
    | some names =>
      rw [listed] at empty
      exact .inl ⟨all, by rw [listed, eq_nil_of_ofList empty]⟩
  · rename_i chosen
    obtain ⟨candidates, found, checked⟩ := bind_eq_ok_iff.mp resolved
    obtain ⟨rfl, -⟩ := checkColumns_eq_ok_iff.mp checked
    obtain ⟨requested, asked, empty⟩ := candidates_eq_ok_iff.mp found
    obtain ⟨rfl, always⟩ := List.append_eq_nil_iff.mp (eq_nil_of_ofList empty)
    rw [parts] at always chosen
    cases given : query.fieldsFor policy.resource with
    | none =>
      rw [given, parts] at asked
      exact absurd asked.symm fields
    | some names =>
      rw [given] at asked
      -- Every field resolves to a column, so no columns were found for no fields only.
      obtain ⟨-, complete⟩ := resolve_eq_ok_iff.mp asked
      have nothing : names = [] := List.eq_nil_of_length_eq_zero complete.symm
      rw [nothing, parts] at given
      exact .inr { chosen := Bool.eq_false_iff.mpr chosen, unadded := always, listed := given }

/-- A query whose columns have no names leads to no columns. -/
theorem unnamed_columns_nil {config : Config} (accepted : config.policy = .ok policy)
    (named : ColumnsNamed config) {query : Query} {columns : List String}
    (resolved : policy.columns query = .ok columns) (unnamed : ∀ column ∈ columns, column = "") :
    columns = [] := by
  refine List.eq_nil_iff_forall_not_mem.mpr fun column member => ?_
  exact selectable_named accepted named (columns_selectable resolved column member)
    (unnamed column member)

/-- On a resource with an accepted configuration that lists default fields, and all of whose columns
have names, a query fails only through a fault of its own, in any dialect. The exception is a
statement without columns, which counts as a mistake of the integration: the configuration selects
all columns and allows none, or the query lists no field and nothing else is selected. -/
theorem failures_blame_request {config : Config} (accepted : config.policy = .ok policy)
    (fields : config.defaultFields ≠ []) (named : ColumnsNamed config) {context : Context}
    {query : Query} {dialect : Dialect} {error : Error}
    (failed : answer policy context query dialect = .error error) :
    error.isClientError = true ∨ (error = .render .missingColumns ∧
      (SelectsNothing config ∨ AsksForNothing config query)) := by
  have parts := policy_of_accepted accepted
  have paging : policy.extensions = config.pageRules.map PageRule.extension := by rw [parts]
  have builtin : policy.conditionOf = Registry.builtin.condition := by rw [parts]
  cases succeeded : policy.build context query with
  | error fault =>
    rw [answer, succeeded] at failed
    cases failed
    exact .inl (build_fault (configured_parts accepted) context query none _ succeeded)
  | ok select =>
    obtain ⟨columns, built⟩ := built_of_build paging succeeded
    simp only [answer, succeeded, bind, Except.bind] at failed
    by_cases visible : ∃ column ∈ columns, column ≠ ""
    · obtain ⟨statement, -, rendered, -⟩ := complete_of_built builtin built visible dialect
      rw [rendered] at failed
      cases failed
    · have unnamed : ∀ column ∈ columns, column = "" := by simpa using visible
      rw [missing_of_built built unnamed dialect] at failed
      cases failed
      obtain rfl := unnamed_columns_nil accepted named built.resolved unnamed
      exact .inr ⟨rfl, cause_of_no_columns accepted fields built.resolved⟩

/-- A resource whose columns are all selected though none is allowed. -/
def closedConfig : Config where
  resource := "articles"
  defaultFields := ["id"]
  allowedSelect := some []
  alwaysSelectAll := true

/-- A resource that selects what a query asks for. -/
def openConfig : Config where
  resource := "articles"
  columns := .ofList [("id", "id"), ("createdAt", "created_at")]
  defaultFields := ["id"]
  allowedSort := ["created_at"]
  allowedConditions := .ofList [("id", ["eq", "in"])]

/-- A query for no field of the resource. -/
def emptyQuery : Query where
  fields := .ofList [("articles", [])]

theorem open_columns_named : ColumnsNamed openConfig := by
  constructor <;> simp [openConfig, Table.ofList, Table.insertAll, Table.insert, Table.assign,
    Table.empty]

/-- Neither a resource that selects all of nothing nor a query for nothing has a statement, and
either way the integration is blamed. -/
theorem missing_columns_blame_integration :
    (∃ policy, closedConfig.policy = .ok policy ∧ closedConfig.defaultFields ≠ [] ∧
      ColumnsNamed closedConfig ∧
      answer policy {} {} .sqlite = .error (.render .missingColumns)) ∧
    (∃ policy, openConfig.policy = .ok policy ∧ openConfig.defaultFields ≠ [] ∧
      ColumnsNamed openConfig ∧
      answer policy {} emptyQuery .sqlite = .error (.render .missingColumns)) ∧
    Error.isClientError (.render .missingColumns) = false := by
  have closedNamed : ColumnsNamed closedConfig := by
    constructor <;> simp [closedConfig, EmptyCollection.emptyCollection, Table.empty]
  exact ⟨⟨_, rfl, by decide, closedNamed, rfl⟩, ⟨_, rfl, by decide, open_columns_named, rfl⟩, rfl⟩

/-- A query for no field of the resource, with a filter that the resource does not allow. -/
def unfilterableQuery : Query := emptyQuery.withFilter "createdAt" "eq:1"

/-- A query for no field is still to blame for a filter that is not allowed. -/
theorem unfilterable_field_blames_request :
    AsksForNothing openConfig unfilterableQuery ∧
      ∃ policy error, openConfig.policy = .ok policy ∧ openConfig.defaultFields ≠ [] ∧
        ColumnsNamed openConfig ∧ answer policy {} unfilterableQuery .mysql = .error error ∧
        error.isClientError = true := by
  have failed : ∀ policy, openConfig.policy = .ok policy →
      answer policy {} unfilterableQuery .mysql =
        .error (.filteringNotPermitted "createdAt" none) := by
    rintro _ ⟨⟩
    rfl
  refine ⟨⟨rfl, rfl, rfl⟩, _, _, rfl, by decide, open_columns_named, failed _ rfl, ?_⟩
  rcases failures_blame_request rfl (by decide) open_columns_named (failed _ rfl) with
    blames | ⟨missing, -⟩
  · exact blames
  · cases missing

end QueryGate.RequestFaults
