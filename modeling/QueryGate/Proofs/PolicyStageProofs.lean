import QueryGate.Extension.Paging
import QueryGate.Policy.Build
import QueryGate.Proofs.RenderingProofs

/-! The stages of a build, opened one by one: what each of them needs to succeed, and what it then
returns. The built-in extensions see only the page of a query and the limit and the offset of a
statement, and change nothing else. -/
namespace QueryGate.PolicyStages
open Outcomes

variable {policy : Policy} {query : Query}

/-! Resolving names -/

theorem resolve_eq_ok_iff {names columns : List String} :
    policy.resolve names = .ok columns ↔
      policy.resolver names = .ok columns ∧ columns.length = names.length := by
  rw [Policy.resolve, Resolver.exact, bind_eq_ok_iff]
  constructor
  · rintro ⟨resolved, found, checked⟩
    split at checked
    · rename_i complete
      cases checked
      exact ⟨found, complete⟩
    · cases checked
  · rintro ⟨found, complete⟩
    exact ⟨columns, found, by rw [if_pos complete]; rfl⟩

theorem resolveOne_eq_ok_iff {name column : String} :
    policy.resolveOne name = .ok column ↔ policy.resolver [name] = .ok [column] := by
  rw [Policy.resolveOne, bind_eq_ok_iff]
  constructor
  · rintro ⟨columns, resolved, first⟩
    obtain ⟨found, single⟩ := resolve_eq_ok_iff.mp resolved
    obtain ⟨only, rfl⟩ := List.length_eq_one_iff.mp single
    cases first
    exact found
  · intro found
    exact ⟨[column], resolve_eq_ok_iff.mpr ⟨found, rfl⟩, rfl⟩

/-! Columns -/

/-- Without a list of fields the default ones count, with one it does, even if it is empty. -/
theorem candidates_eq_ok_iff {candidates : List String} :
    policy.candidates query = .ok candidates ↔
      ∃ requested, (match query.fieldsFor policy.resource with
          | none => requested = policy.defaultFields
          | some fields => policy.resolve fields = .ok requested) ∧
        (NameSet.ofList (requested ++ policy.alwaysSelect)).names = candidates := by
  rw [Policy.candidates]
  cases query.fieldsFor policy.resource with
  | none => simp [bind, Except.bind, pure, Except.pure]
  | some fields => simp [bind_eq_ok_iff, pure, Except.pure]

theorem checkColumns_eq_ok_iff {columns checked : List String} :
    policy.checkColumns columns = .ok checked ↔
      columns = checked ∧ ∀ column ∈ columns, column ∈ policy.selectableColumns := by
  rw [Policy.checkColumns]
  split
  · rename_i refused found
    have member := List.mem_of_find?_eq_some found
    have outside := List.find?_some found
    constructor
    · exact fun impossible => nomatch impossible
    · rintro ⟨-, allowed⟩
      simp [NameSet.contains_iff.mpr (allowed refused member)] at outside
  · rename_i missing
    have allowed : ∀ column ∈ columns, column ∈ policy.selectableColumns := by
      simpa [NameSet.contains_iff] using List.find?_eq_none.mp missing
    constructor
    · intro same
      exact ⟨Except.ok.inj same, allowed⟩
    · rintro ⟨rfl, -⟩
      rfl

/-- Columns that may be selected pass the check, so it matters only where columns are chosen. -/
theorem columns_eq (policy : Policy) (query : Query) :
    policy.columns query =
      if policy.selectAll then .ok policy.selectableColumns.names
      else policy.candidates query >>= policy.checkColumns := by
  rw [Policy.columns]
  split
  · exact checkColumns_eq_ok_iff.mpr ⟨rfl, fun column member => member⟩
  · rfl

/-- Whatever a query asks for, its columns may be selected. -/
theorem columns_selectable {columns : List String} (resolved : policy.columns query = .ok columns) :
    ∀ column ∈ columns, column ∈ policy.selectableColumns := by
  rw [columns_eq] at resolved
  split at resolved
  · cases resolved
    exact fun column member => member
  · obtain ⟨candidates, -, checked⟩ := bind_eq_ok_iff.mp resolved
    obtain ⟨rfl, allowed⟩ := checkColumns_eq_ok_iff.mp checked
    exact allowed

/-! Filters -/

/-- The condition is what a registered operation makes of the filter: the operation is allowed on
the field, and gets the column of the field and the arguments of the predicate. -/
def Grants (policy : Policy) (filter : Filter) (condition : Expr) : Prop :=
  ∃ operations column predicate make,
    policy.filterable.operations? filter.field = some operations ∧
    policy.resolver [filter.field] = .ok [column] ∧
    policy.parser filter.predicate = .ok predicate ∧
    predicate.operation ∈ operations ∧
    policy.conditionOf predicate.operation = .ok make ∧
    make column predicate.args = .ok condition

theorem filterCondition_eq_ok_iff {filter : Filter} {condition : Expr} :
    policy.filterCondition filter = .ok condition ↔ Grants policy filter condition := by
  rw [Policy.filterCondition, Grants]
  cases policy.filterable.operations? filter.field with
  | none => simp
  | some operations =>
    simp only [bind_eq_ok_iff, resolveOne_eq_ok_iff, Option.some.injEq]
    constructor
    · rintro ⟨column, resolved, predicate, parsed, checked⟩
      split at checked
      · rename_i allowed
        obtain ⟨make, registered, made⟩ := bind_eq_ok_iff.mp checked
        exact ⟨operations, column, predicate, make, rfl, resolved, parsed,
          NameSet.contains_iff.mp allowed, registered, made⟩
      · cases checked
    · rintro ⟨_, column, predicate, make, rfl, resolved, parsed, allowed, registered, made⟩
      refine ⟨column, resolved, predicate, parsed, ?_⟩
      rw [if_pos (NameSet.contains_iff.mpr allowed), registered]
      exact made

/-- The conditions of a query stand one for one for its filters. -/
theorem conditions_eq_ok_iff {conditions : List Expr} :
    policy.conditions query = .ok conditions ↔
      List.Forall₂ (Grants policy) query.filters conditions := by
  simp only [Policy.conditions, mapM_eq_ok_iff, filterCondition_eq_ok_iff]

/-! Sort directives -/

/-- The terms are the resolved columns with the directions of the directives, one for one, and
all of them may be sorted by. -/
def Sorts (policy : Policy) (directives : List SortDirective) (terms : List SortTerm) : Prop :=
  ∃ columns, policy.resolver (directives.map SortDirective.field) = .ok columns ∧
    columns.length = directives.length ∧
    (∀ column ∈ columns, column ∈ policy.sortable) ∧
    terms = directives.zipWith (fun directive column => ⟨column, directive.direction⟩) columns

private theorem sortTerm_eq_ok_iff {directive : SortDirective} {column : String} {term : SortTerm} :
    policy.sortTerm directive column = .ok term ↔
      column ∈ policy.sortable ∧ ⟨column, directive.direction⟩ = term := by
  rw [Policy.sortTerm]
  split
  · rename_i allowed
    simp [NameSet.contains_iff.mp allowed]
  · rename_i refused
    have outside : column ∉ policy.sortable :=
      fun member => refused (NameSet.contains_iff.mpr member)
    simp [outside]

private theorem paired_terms {directives : List SortDirective} {columns : List String}
    {terms : List SortTerm} (complete : columns.length = directives.length) :
    List.Forall₂ (fun pair term => policy.sortTerm pair.1 pair.2 = .ok term)
        (directives.zip columns) terms ↔
      (∀ column ∈ columns, column ∈ policy.sortable) ∧
        terms = directives.zipWith (fun directive column => ⟨column, directive.direction⟩)
          columns := by
  induction directives generalizing columns terms with
  | nil =>
    have empty := List.eq_nil_of_length_eq_zero complete
    simp [empty]
  | cons directive rest later =>
    obtain ⟨column, others, rfl⟩ := List.exists_cons_of_length_eq_add_one complete
    have tail {terms : List SortTerm} := @later others terms (Nat.succ.inj complete)
    rw [List.zip_cons_cons, List.forall₂_cons_left_iff, List.zipWith_cons_cons,
      List.forall_mem_cons]
    constructor
    · rintro ⟨term, terms, made, each, rfl⟩
      obtain ⟨allowed, rfl⟩ := sortTerm_eq_ok_iff.mp made
      obtain ⟨othersAllowed, rfl⟩ := tail.mp each
      exact ⟨⟨allowed, othersAllowed⟩, rfl⟩
    · rintro ⟨⟨allowed, othersAllowed⟩, rfl⟩
      exact ⟨_, _, sortTerm_eq_ok_iff.mpr ⟨allowed, rfl⟩, tail.mpr ⟨othersAllowed, rfl⟩, rfl⟩

/-- Without directives nothing is resolved; else the terms stand one for one for them. -/
theorem sortTerms_eq_ok_iff {terms : List SortTerm} :
    policy.sortTerms query = .ok terms ↔
      if query.sort = [] then terms = [] else Sorts policy query.sort terms := by
  rw [Policy.sortTerms]
  cases given : query.sort with
  | nil => simp [eq_comm]
  | cons directive rest =>
    rw [if_neg (by simp), if_neg (by simp), bind_eq_ok_iff]
    simp only [resolve_eq_ok_iff, mapM_eq_ok_iff, List.length_map, Sorts]
    constructor
    · rintro ⟨columns, ⟨resolved, complete⟩, each⟩
      exact ⟨columns, resolved, complete, (paired_terms complete).mp each⟩
    · rintro ⟨columns, resolved, complete, each⟩
      exact ⟨columns, ⟨resolved, complete⟩, (paired_terms complete).mpr each⟩

/-! The whole build -/

/-- The statement that the extensions receive. -/
def assembled (policy : Policy) (supplied : Select) (columns : List String)
    (conditions : List Expr) (terms : List SortTerm) : Select :=
  (((supplied.selectNames columns).readFrom policy.resource).addConditions conditions).orderBy terms

/-- The node that names make in a clause, if there are any. -/
def columnNodes (names : List String) : List Expr :=
  if names = [] then [] else [.columns names]

/-- The node that sort terms make in a clause, if there are any. -/
def orderNodes (terms : List SortTerm) : List Expr :=
  if terms = [] then [] else [.orderBy terms]

theorem values_columnNodes (names : List String) :
    Expr.valuesEach (columnNodes names) = [] := by
  rw [columnNodes]
  split <;> rfl

theorem values_orderNodes (terms : List SortTerm) :
    Expr.valuesEach (orderNodes terms) = [] := by
  rw [orderNodes]
  split <;> rfl

/-- A supplied statement keeps its nodes in front, and reads from the resource. -/
theorem assembled_eq (supplied : Select) (columns : List String) (conditions : List Expr)
    (terms : List SortTerm) :
    assembled policy supplied columns conditions terms =
      { supplied with
        columns := supplied.columns ++ columnNodes columns
        source := some policy.resource
        conditions := supplied.conditions ++ conditions
        ordering := supplied.ordering ++ orderNodes terms } := by
  have kept (nodes : List Expr) : nodes ++ [] = nodes := List.append_nil nodes
  cases columns with
  | nil =>
    cases terms with
    | nil => rw [columnNodes, orderNodes, if_pos rfl, if_pos rfl, kept, kept]; rfl
    | cons term rest => rw [columnNodes, if_pos rfl, kept]; rfl
  | cons column others =>
    cases terms with
    | nil => rw [orderNodes, if_pos rfl, kept]; rfl
    | cons term rest => rfl

/-- A build succeeds exactly when its stages do. -/
theorem build_eq_ok_iff {context : Context} {supplied : Option Select} {built : Select} :
    policy.build context query supplied = .ok built ↔
      ∃ columns conditions terms, policy.columns query = .ok columns ∧
        policy.conditions query = .ok conditions ∧ policy.sortTerms query = .ok terms ∧
        Extension.runAll policy.extensions context query
          (assembled policy (supplied.getD .empty) columns conditions terms) = .ok built := by
  rw [Policy.build_eq]
  simp only [bind_eq_ok_iff, assembled]
  constructor
  · rintro ⟨columns, selected, conditions, filtered, terms, sorted, ran⟩
    exact ⟨columns, conditions, terms, selected, filtered, sorted, ran⟩
  · rintro ⟨columns, conditions, terms, selected, filtered, sorted, ran⟩
    exact ⟨columns, selected, conditions, filtered, terms, sorted, ran⟩

end QueryGate.PolicyStages
