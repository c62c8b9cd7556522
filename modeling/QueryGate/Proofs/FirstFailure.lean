import QueryGate.Proofs.PolicyStageProofs

/-! The order of the checks in a build. The checks are listed one by one, each with the error that
it gives, read off the policy and the query alone. A build fails exactly when one of them fails, and
the first to fail decides the error, however many faults the query has. -/
namespace QueryGate.FirstFailure
open Outcomes PolicyStages

variable (policy : Policy) (context : Context) (query : Query) (supplied : Option Select)

/-! What the checks look at -/

/-- The resolver refuses the names, or does not return one column for each of them. -/
inductive Unresolved (names : List String) : Error → Prop where
  | refused {error : Error} (refused : policy.resolver names = .error error) :
      Unresolved names error
  | miscounted {columns : List String} (returned : policy.resolver names = .ok columns)
      (miscounted : columns.length ≠ names.length) :
      Unresolved names (.unresolved (names[columns.length]?.getD "")
        (.wrongCount columns.length names.length))

/-- The columns that the query leads to while not all are selected, each once, at its first place:
those of the fields that it lists for the resource, even if it lists none, or else the default
fields, and then those that are always selected. -/
inductive LeadsTo : List String → Prop where
  | requested {names columns : List String}
      (listed : query.fieldsFor policy.resource = some names)
      (resolved : policy.resolver names = .ok columns) (complete : columns.length = names.length) :
      LeadsTo (columns ++ policy.alwaysSelect).eraseDups
  | default (unlisted : query.fieldsFor policy.resource = none) :
      LeadsTo (policy.defaultFields ++ policy.alwaysSelect).eraseDups

/-- The columns of the statement of a query that may select them. -/
inductive Selects : List String → Prop where
  | all (on : policy.selectAll = true) : Selects policy.selectableColumns.names
  | chosen {columns : List String} (off : policy.selectAll = false)
      (leads : LeadsTo policy query columns)
      (allowed : ∀ column ∈ columns, column ∈ policy.selectableColumns) : Selects columns

/-- The predicate of a filter, if its operation is allowed on the field. -/
def Reads (filter : Filter) (predicate : Predicate) : Prop :=
  policy.parser filter.predicate = .ok predicate ∧
    policy.filterable.Permits filter.field predicate.operation

/-- The statement that the extensions receive when everything before them succeeds. -/
def Assembles (statement : Select) : Prop :=
  ∃ columns conditions terms, Selects policy query columns ∧
    List.Forall₂ (Grants policy) query.filters conditions ∧
    (if query.sort = [] then terms = [] else Sorts policy query.sort terms) ∧
    statement = assembled policy (supplied.getD .empty) columns conditions terms

/-! The checks -/

/-- One check of a build. -/
inductive Check where
  | fieldNames
  | columns
  | entry (filter : Filter)
  | name (filter : Filter)
  | predicate (filter : Filter)
  | operation (filter : Filter)
  | registration (filter : Filter)
  | arguments (filter : Filter)
  | sortNames
  | sortColumns
  | extension (index : Nat)

/-- A column that may not be selected, with its error. -/
def Unselectable (column : String) (error : Error) : Prop :=
  column ∉ policy.selectableColumns ∧ error = .fieldNotAllowed column .select

/-- A directive whose column may not be sorted by, with its error: it names what was asked for. -/
def Unsortable (pair : SortDirective × String) (error : Error) : Prop :=
  pair.2 ∉ policy.sortable ∧ error = .fieldNotAllowed pair.1.field .sort

/-- The check fails with the error. A check that needs what earlier ones give fails only if they
give it. -/
inductive Fails : Check → Error → Prop where
  | fieldNames {names : List String} {error : Error} (off : policy.selectAll = false)
      (listed : query.fieldsFor policy.resource = some names)
      (unresolved : Unresolved policy names error) : Fails .fieldNames error
  | columns {columns : List String} {error : Error} (off : policy.selectAll = false)
      (leads : LeadsTo policy query columns)
      (refused : FirstFails (Unselectable policy) columns error) : Fails .columns error
  | entry {filter : Filter} (unknown : policy.filterable.operations? filter.field = none) :
      Fails (.entry filter) (.filteringNotPermitted filter.field none)
  | name {filter : Filter} {error : Error} (unresolved : Unresolved policy [filter.field] error) :
      Fails (.name filter) error
  | predicate {filter : Filter} {error : Error}
      (refused : policy.parser filter.predicate = .error error) : Fails (.predicate filter) error
  | operation {filter : Filter} {operations : NameSet} {predicate : Predicate}
      (known : policy.filterable.operations? filter.field = some operations)
      (parsed : policy.parser filter.predicate = .ok predicate)
      (outside : predicate.operation ∉ operations) :
      Fails (.operation filter)
        (.filteringNotPermitted filter.field (some predicate.operation))
  | registration {filter : Filter} {predicate : Predicate} {error : Error}
      (reads : Reads policy filter predicate)
      (refused : policy.conditionOf predicate.operation = .error error) :
      Fails (.registration filter) error
  | arguments {filter : Filter} {predicate : Predicate} {column : String} {make : Condition}
      {error : Error} (reads : Reads policy filter predicate)
      (resolved : policy.resolver [filter.field] = .ok [column])
      (registered : policy.conditionOf predicate.operation = .ok make)
      (refused : make column predicate.args = .error error) : Fails (.arguments filter) error
  | sortNames {error : Error} (sorted : query.sort ≠ [])
      (unresolved : Unresolved policy (query.sort.map SortDirective.field) error) :
      Fails .sortNames error
  | sortColumns {columns : List String} {error : Error}
      (resolved : policy.resolver (query.sort.map SortDirective.field) = .ok columns)
      (complete : columns.length = query.sort.length)
      (refused : FirstFails (Unsortable policy) (query.sort.zip columns) error) :
      Fails .sortColumns error
  | extension {index : Nat} {extension : Extension} {start before : Select} {error : Error}
      (added : policy.extensions[index]? = some extension)
      (assembles : Assembles policy query supplied start)
      (earlier : Extension.runAll (policy.extensions.take index) context query start = .ok before)
      (failure : (extension context query before).failure = some error) :
      Fails (.extension index) error

/-- The checks on one filter. -/
def filterChecks (filter : Filter) : List Check :=
  [.entry filter, .name filter, .predicate filter, .operation filter, .registration filter,
    .arguments filter]

/-- All checks of a build: on the columns, on one filter after the other, on the sort directives,
and the extensions in the order in which they were added. -/
def checks : List Check :=
  [.fieldNames, .columns] ++ query.filters.flatMap filterChecks ++ [.sortNames, .sortColumns]
    ++ (List.range policy.extensions.length).map .extension

variable {policy context query supplied}

/-! Names -/

theorem resolve_eq_error_iff {names : List String} {error : Error} :
    policy.resolve names = .error error ↔ Unresolved policy names error := by
  rw [Policy.resolve, Resolver.exact, bind_eq_error_iff]
  constructor
  · rintro (refused | ⟨columns, returned, checked⟩)
    · exact .refused refused
    · split at checked
      · cases checked
      · rename_i miscounted
        cases checked
        exact .miscounted returned miscounted
  · intro unresolved
    cases unresolved with
    | refused refused => exact .inl refused
    | miscounted returned miscounted => exact .inr ⟨_, returned, if_neg miscounted⟩

private theorem resolveOne_eq_error_iff {name : String} {error : Error} :
    policy.resolveOne name = .error error ↔ Unresolved policy [name] error := by
  rw [Policy.resolveOne, bind_eq_error_iff, resolve_eq_error_iff]
  refine or_iff_left ?_
  rintro ⟨columns, -, impossible⟩
  cases impossible

/-! Columns -/

theorem candidates_iff_leadsTo {columns : List String} :
    policy.candidates query = .ok columns ↔ LeadsTo policy query columns := by
  simp only [candidates_eq_ok_iff, NameSet.names_ofList]
  constructor
  · rintro ⟨requested, asked, rfl⟩
    cases listed : query.fieldsFor policy.resource with
    | none =>
      rw [listed] at asked
      cases asked
      exact .default listed
    | some names =>
      rw [listed] at asked
      obtain ⟨resolved, complete⟩ := resolve_eq_ok_iff.mp asked
      exact .requested listed resolved complete
  · intro leads
    cases leads with
    | requested listed resolved complete =>
      exact ⟨_, by rw [listed]; exact resolve_eq_ok_iff.mpr ⟨resolved, complete⟩, rfl⟩
    | default unlisted => exact ⟨_, by rw [unlisted], rfl⟩

theorem columns_iff_selects {columns : List String} :
    policy.columns query = .ok columns ↔ Selects policy query columns := by
  rw [columns_eq]
  cases all : policy.selectAll with
  | true =>
    rw [if_pos rfl]
    constructor
    · rintro ⟨⟩
      exact .all all
    · intro selects
      cases selects with
      | all on => rfl
      | chosen off => cases all.symm.trans off
  | false =>
    simp only [Bool.false_eq_true, if_false, bind_eq_ok_iff, candidates_iff_leadsTo,
      checkColumns_eq_ok_iff]
    constructor
    · rintro ⟨candidates, leads, rfl, allowed⟩
      exact .chosen all leads allowed
    · intro selects
      cases selects with
      | all on => cases all.symm.trans on
      | chosen off leads allowed => exact ⟨_, leads, rfl, allowed⟩

/-- The first column that may not be selected is refused. -/
theorem checkColumns_decided (columns : List String) :
    DecidedBy (Unselectable policy) columns (policy.checkColumns columns) := by
  induction columns with
  | nil => exact .ok []
  | cons column rest later =>
    by_cases allowed : column ∈ policy.selectableColumns
    · have others : policy.checkColumns (column :: rest) =
          (policy.checkColumns rest).map (column :: ·) := by
        rw [Policy.checkColumns, Policy.checkColumns, List.find?_cons,
          NameSet.contains_iff.mpr allowed]
        cases rest.find? fun column => !policy.selectableColumns.contains column <;> rfl
      rw [others]
      exact .passed (fun error refused => refused.1 allowed) (later.map _)
    · have refused : policy.checkColumns (column :: rest) =
          .error (.fieldNotAllowed column .select) := by
        have outside : policy.selectableColumns.contains column = false := by
          rw [← Bool.not_eq_true, NameSet.contains_iff]
          exact allowed
        rw [Policy.checkColumns, List.find?_cons, outside]
        rfl
      rw [refused]
      exact .failed fun other => ⟨fun fault => fault.2.symm, fun same => ⟨allowed, same.symm⟩⟩

theorem candidates_eq_error_iff {error : Error} :
    policy.candidates query = .error error ↔
      ∃ names, query.fieldsFor policy.resource = some names ∧ Unresolved policy names error := by
  rw [Policy.candidates]
  cases listed : query.fieldsFor policy.resource with
  | none =>
    constructor
    · rintro ⟨⟩
    · rintro ⟨_, ⟨⟩, -⟩
  | some names =>
    rw [bind_eq_error_iff, resolve_eq_error_iff]
    constructor
    · rintro (unresolved | ⟨columns, -, impossible⟩)
      · exact ⟨names, rfl, unresolved⟩
      · cases impossible
    · rintro ⟨_, ⟨⟩, unresolved⟩
      exact .inl unresolved

private theorem fieldNames_decided (off : policy.selectAll = false) (error : Error) :
    policy.candidates query = .error error ↔
      Fails policy context query supplied .fieldNames error := by
  rw [candidates_eq_error_iff]
  constructor
  · rintro ⟨names, listed, unresolved⟩
    exact .fieldNames off listed unresolved
  · intro fails
    cases fails with
    | fieldNames _ listed unresolved => exact ⟨_, listed, unresolved⟩

theorem columns_decided :
    DecidedBy (Fails policy context query supplied) [.fieldNames, .columns]
      (policy.columns query) := by
  rw [columns_eq]
  cases all : policy.selectAll with
  | true =>
    refine .passed (fun error fails => ?_) (.passed (fun error fails => ?_) (.ok _))
    · cases fails with
      | fieldNames off => cases all.symm.trans off
    · cases fails with
      | columns off => cases all.symm.trans off
  | false =>
    refine .step (fieldNames_decided all) fun columns found => ?_
    refine .single fun error => ?_
    rw [checkColumns_decided columns error]
    constructor
    · exact .columns all (candidates_iff_leadsTo.mp found)
    · intro fails
      cases fails with
      | columns _ leads refused =>
        cases found.symm.trans (candidates_iff_leadsTo.mpr leads)
        exact refused

/-! Filters -/

/-- The checks on a filter whose column is known and whose operation is allowed. -/
private theorem made_decided {filter : Filter} {predicate : Predicate} {column : String}
    (reads : Reads policy filter predicate)
    (resolved : policy.resolver [filter.field] = .ok [column]) :
    DecidedBy (Fails policy context query supplied) [.registration filter, .arguments filter]
      (policy.conditionOf predicate.operation >>= fun make => make column predicate.args) := by
  refine .step (fun error => ⟨.registration reads, fun fails => ?_⟩) fun make registered => ?_
  · cases fails with
    | registration other refused =>
      cases reads.1.symm.trans other.1
      exact refused
  refine .single fun error => ⟨.arguments reads resolved registered, fun fails => ?_⟩
  cases fails with
  | arguments other named listed refused =>
    cases reads.1.symm.trans other.1
    cases resolved.symm.trans named
    cases registered.symm.trans listed
    exact refused

private theorem filterCondition_decided (filter : Filter) :
    DecidedBy (Fails policy context query supplied) (filterChecks filter)
      (policy.filterCondition filter) := by
  rw [Policy.filterCondition, filterChecks]
  cases known : policy.filterable.operations? filter.field with
  | none =>
    refine .failed fun other => ⟨fun fails => ?_, fun same => same ▸ .entry known⟩
    cases fails with
    | entry => rfl
  | some operations =>
    refine .passed (fun error fails => ?_) ?_
    · cases fails with
      | entry unknown => cases known.symm.trans unknown
    refine .step (fun error => ?_) fun column found => ?_
    · rw [resolveOne_eq_error_iff]
      refine ⟨.name, fun fails => ?_⟩
      cases fails with
      | name unresolved => exact unresolved
    have resolved := resolveOne_eq_ok_iff.mp found
    refine .step (fun error => ⟨.predicate, fun fails => ?_⟩) fun predicate parsed => ?_
    · cases fails with
      | predicate refused => exact refused
    by_cases allowed : predicate.operation ∈ operations
    · have reads : Reads policy filter predicate := ⟨parsed, operations, known, allowed⟩
      rw [if_pos (NameSet.contains_iff.mpr allowed)]
      refine .passed (fun error fails => ?_) (made_decided reads resolved)
      cases fails with
      | operation entry read outside =>
        cases known.symm.trans entry
        cases parsed.symm.trans read
        exact outside allowed
    · rw [if_neg (mt NameSet.contains_iff.mp allowed)]
      refine .failed fun other =>
        ⟨fun fails => ?_, fun same => same ▸ .operation known parsed allowed⟩
      cases fails with
      | operation _ read =>
        cases parsed.symm.trans read
        rfl

/-- The checks on all filters, one filter after the other. -/
theorem conditions_decided :
    DecidedBy (Fails policy context query supplied) (query.filters.flatMap filterChecks)
      (policy.conditions query) := .mapM filterCondition_decided query.filters

/-! Sort directives -/

private theorem terms_decided (pairs : List (SortDirective × String)) :
    DecidedBy (Unsortable policy) pairs (pairs.mapM fun pair => policy.sortTerm pair.1 pair.2) := by
  have one (pair : SortDirective × String) :
      DecidedBy (Unsortable policy) [pair] (policy.sortTerm pair.1 pair.2) := by
    rw [Policy.sortTerm]
    by_cases allowed : pair.2 ∈ policy.sortable
    · rw [if_pos (NameSet.contains_iff.mpr allowed)]
      exact .passed (fun error refused => refused.1 allowed) (.ok _)
    · rw [if_neg (mt NameSet.contains_iff.mp allowed)]
      exact .failed fun other => ⟨fun fault => fault.2.symm, fun same => ⟨allowed, same.symm⟩⟩
  simpa using DecidedBy.mapM one pairs

private theorem sortTerms_decided :
    DecidedBy (Fails policy context query supplied) [.sortNames, .sortColumns]
      (policy.sortTerms query) := by
  rw [Policy.sortTerms]
  by_cases unsorted : query.sort = []
  · rw [unsorted]
    refine .passed (fun error fails => ?_) (.passed (fun error fails => ?_) (.ok []))
    · cases fails with
      | sortNames sorted => exact sorted unsorted
    · cases fails with
      | sortColumns _ _ refused =>
        rw [unsorted] at refused
        cases refused
  · rw [if_neg (by simpa using unsorted)]
    refine .step (fun error => ?_) fun columns found => .single fun error => ?_
    · rw [resolve_eq_error_iff]
      refine ⟨.sortNames unsorted, fun fails => ?_⟩
      cases fails with
      | sortNames _ unresolved => exact unresolved
    · obtain ⟨resolved, complete⟩ := resolve_eq_ok_iff.mp found
      rw [List.length_map] at complete
      rw [terms_decided (query.sort.zip columns) error]
      refine ⟨.sortColumns resolved complete, fun fails => ?_⟩
      cases fails with
      | sortColumns same _ refused =>
        cases resolved.symm.trans same
        exact refused

/-! Extensions -/

theorem assembles_iff {statement : Select} :
    Assembles policy query supplied statement ↔
      ∃ columns conditions terms, policy.columns query = .ok columns ∧
        policy.conditions query = .ok conditions ∧ policy.sortTerms query = .ok terms ∧
        statement = assembled policy (supplied.getD .empty) columns conditions terms := by
  simp only [Assembles, columns_iff_selects, conditions_eq_ok_iff, sortTerms_eq_ok_iff]

private theorem assembles_unique {first second : Select}
    (assembles : Assembles policy query supplied first)
    (too : Assembles policy query supplied second) : first = second := by
  obtain ⟨columns, conditions, terms, selected, filtered, sorted, rfl⟩ := assembles_iff.mp assembles
  obtain ⟨_, _, _, selectedToo, filteredToo, sortedToo, rfl⟩ := assembles_iff.mp too
  cases selected.symm.trans selectedToo
  cases filtered.symm.trans filteredToo
  cases sorted.symm.trans sortedToo
  rfl

private theorem runAll_concat {extensions : List Extension} {extension : Extension}
    {start before after : Select}
    (ran : Extension.runAll extensions context query start = .ok before)
    (left : (extension context query before).toExcept = .ok after) :
    Extension.runAll (extensions ++ [extension]) context query start = .ok after := by
  rw [Extension.runAll, List.foldlM_append, ← Extension.runAll, ran]
  exact bind_eq_ok_iff.mpr ⟨before, rfl, bind_eq_ok_iff.mpr ⟨after, left, rfl⟩⟩

/-- The extensions that are left, once the first ones have run on the assembled statement. -/
private theorem rest_decided {start : Select} (assembles : Assembles policy query supplied start)
    (rest : List Extension) : ∀ (done : List Extension) (before : Select),
    policy.extensions = done ++ rest →
    Extension.runAll done context query start = .ok before →
    DecidedBy (Fails policy context query supplied)
      ((List.range' done.length rest.length).map .extension)
      (Extension.runAll rest context query before) := by
  induction rest with
  | nil => exact fun _ before _ _ => .ok before
  | cons extension rest later =>
    intro done before split ran
    have added : policy.extensions[done.length]? = some extension := by simp [split]
    have taken : policy.extensions.take done.length = done := by simp [split]
    rw [List.length_cons, List.range'_succ, List.map_cons, Extension.runAll, List.foldlM_cons]
    refine .step (fun error => ?_) fun after left => ?_
    · rw [Outcome.toExcept_eq_error_iff]
      refine ⟨.extension added assembles (taken.symm ▸ ran), fun fails => ?_⟩
      cases fails with
      | extension other startToo earlier failure =>
        cases added.symm.trans other
        cases assembles_unique assembles startToo
        rw [taken] at earlier
        cases ran.symm.trans earlier
        exact failure
    · have next := later (done ++ [extension]) after (by simp [split]) (runAll_concat ran left)
      rwa [List.length_append] at next

private theorem extensions_decided {start : Select}
    (assembles : Assembles policy query supplied start) :
    DecidedBy (Fails policy context query supplied)
      ((List.range policy.extensions.length).map .extension)
      (Extension.runAll policy.extensions context query start) := by
  rw [List.range_eq_range']
  exact rest_decided assembles policy.extensions [] start rfl rfl

/-- What is left to check once the columns and the conditions are there. -/
theorem completion_decided {columns : List String} {conditions : List Expr}
    (selected : policy.columns query = .ok columns)
    (filtered : policy.conditions query = .ok conditions) :
    DecidedBy (Fails policy context query supplied)
      ([.sortNames, .sortColumns] ++ (List.range policy.extensions.length).map .extension)
      (policy.sortTerms query >>= fun terms =>
        Extension.runAll policy.extensions context query
          (assembled policy (supplied.getD .empty) columns conditions terms)) := by
  refine sortTerms_decided.bind fun terms sorted => ?_
  exact extensions_decided
    (assembles_iff.mpr ⟨columns, conditions, terms, selected, filtered, sorted, rfl⟩)

/-! The whole build -/

theorem build_decided :
    DecidedBy (Fails policy context query supplied) (checks policy query)
      (policy.build context query supplied) := by
  rw [Policy.build_eq, checks, List.append_assoc, List.append_assoc]
  refine columns_decided.bind fun columns selected => ?_
  exact conditions_decided.bind fun conditions filtered => completion_decided selected filtered

/-- For any policy, whatever its resolver, registry, parser and extensions do, any query and any
supplied statement: a build fails exactly when one of the listed checks does, and its error is that
of the first check that fails. -/
theorem first_failure_decides (policy : Policy) (context : Context) (query : Query)
    (supplied : Option Select) :
    ((∃ error, policy.build context query supplied = .error error) ↔
      ∃ check ∈ checks policy query, ∃ error, Fails policy context query supplied check error) ∧
    ∀ error, policy.build context query supplied = .error error ↔
      FirstFails (Fails policy context query supplied) (checks policy query) error := by
  refine ⟨?_, build_decided⟩
  rw [← exists_firstFails_iff]
  exact exists_congr build_decided

/-! Where errors come from -/

/-- What an error of a build comes from: a check of the policy itself, or a part supplied to it. -/
inductive Source (policy : Policy) (context : Context) (query : Query) : Error → Prop where
  | column (name : String) (clause : Clause) :
      Source policy context query (.fieldNotAllowed name clause)
  | filter (field : String) (operation : Option String) :
      Source policy context query (.filteringNotPermitted field operation)
  | count (entry : String) (returned asked : Nat) :
      Source policy context query (.unresolved entry (.wrongCount returned asked))
  | resolver {names : List String} {error : Error}
      (refused : policy.resolver names = .error error) : Source policy context query error
  | parser {text : String} {error : Error} (refused : policy.parser text = .error error) :
      Source policy context query error
  | registry {field operation : String} {error : Error}
      (allowed : policy.filterable.Permits field operation)
      (refused : policy.conditionOf operation = .error error) : Source policy context query error
  | condition {operation : String} {make : Condition} {column : String} {args : List String}
      {error : Error} (registered : policy.conditionOf operation = .ok make)
      (refused : make column args = .error error) : Source policy context query error
  | extensions {start : Select} {error : Error}
      (failed : Extension.runAll policy.extensions context query start = .error error) :
      Source policy context query error

private theorem source_of_unresolved {names : List String} {error : Error}
    (unresolved : Unresolved policy names error) : Source policy context query error := by
  cases unresolved with
  | refused refused => exact .resolver refused
  | miscounted => exact .count ..

private theorem runAll_of_failure {extensions : List Extension} {index : Nat}
    {extension : Extension} {start before : Select} {error : Error}
    (added : extensions[index]? = some extension)
    (earlier : Extension.runAll (extensions.take index) context query start = .ok before)
    (failure : (extension context query before).failure = some error) :
    Extension.runAll extensions context query start = .error error := by
  obtain ⟨bound, rfl⟩ := List.getElem?_eq_some_iff.mp added
  rw [← List.take_append_drop index extensions, List.drop_eq_getElem_cons bound, Extension.runAll,
    List.foldlM_append, ← Extension.runAll, earlier]
  refine bind_eq_error_iff.mpr (.inr ⟨before, rfl, ?_⟩)
  exact bind_eq_error_iff.mpr (.inl (Outcome.toExcept_eq_error_iff.mpr failure))

theorem source_of_build {error : Error}
    (failed : policy.build context query supplied = .error error) :
    Source policy context query error := by
  obtain ⟨check, -, fails⟩ := ((build_decided error).mp failed).failing
  cases fails with
  | fieldNames _ _ unresolved => exact source_of_unresolved unresolved
  | columns _ _ refused =>
    obtain ⟨column, -, -, rfl⟩ := refused.failing
    exact .column ..
  | entry => exact .filter ..
  | name unresolved => exact source_of_unresolved unresolved
  | predicate refused => exact .parser refused
  | operation => exact .filter ..
  | registration reads refused => exact .registry reads.2 refused
  | arguments _ _ registered refused => exact .condition registered refused
  | sortNames _ unresolved => exact source_of_unresolved unresolved
  | sortColumns _ _ refused =>
    obtain ⟨pair, -, -, rfl⟩ := refused.failing
    exact .column ..
  | extension added _ earlier failure => exact .extensions (runAll_of_failure added earlier failure)

end QueryGate.FirstFailure
