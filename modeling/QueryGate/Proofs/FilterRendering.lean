import QueryGate.Proofs.PagingProofs
import QueryGate.Proofs.PolicyStageProofs
import QueryGate.Proofs.RegistryProofs
import QueryGate.Proofs.StatementText

/-! Built statements render. With the built-in conditions nothing can be wrong with a statement but
that none of its columns has a name, and then no filter is left out: the WHERE clause joins one
condition for each filter, and the parameters are the arguments that these bind. -/
namespace QueryGate.FilterRendering
open Outcomes PolicyStages PageRule

/-! Built-in conditions -/

/-- The texts that an operation binds to its arguments, by the name of the operation. -/
inductive Binds : String → List String → List String → Prop where
  | comparison {name : String} (known : name ∈ ["eq", "neq", "lt", "le", "gt", "ge"])
      (arg : String) : Binds name [arg] [arg]
  | members {name : String} (known : name ∈ ["in", "notin"]) (arg : String) (rest : List String) :
      Binds name (arg :: rest) (arg :: rest)
  | like (arg : String) (ignored : List String) : Binds "like" (arg :: ignored) [arg]
  | startsWith (arg : String) (ignored : List String) :
      Binds "startswith" (arg :: ignored) [arg ++ "%"]
  | endsWith (arg : String) (ignored : List String) :
      Binds "endswith" (arg :: ignored) ["%" ++ arg]
  | contains (arg : String) (ignored : List String) :
      Binds "contains" (arg :: ignored) ["%" ++ arg ++ "%"]
  | nullCheck {name : String} (known : name ∈ ["null", "notnull"]) (ignored : List String) :
      Binds name ignored []

theorem binds_of_condition {operation : Builtin} {column : String} {args : List String}
    {condition : Expr} (made : operation.condition column args = .ok condition) :
    ∃ texts, Binds operation.name args texts ∧ condition.values = texts.map .text := by
  have values := Builtin.values_of_condition made
  cases Builtin.makes_of_condition made with
  | compare op arg =>
    refine ⟨[arg], .comparison ?_ arg, values⟩
    cases op <;> decide
  | inList negated arg rest =>
    refine ⟨arg :: rest, .members ?_ arg rest, values⟩
    cases negated <;> decide
  | matching kind arg ignored =>
    refine ⟨[kind.pattern arg], ?_, values⟩
    cases kind with
    | whole => exact .like arg ignored
    | start => exact .startsWith arg ignored
    | finish => exact .endsWith arg ignored
    | anywhere => exact .contains arg ignored
  | isNull negated =>
    refine ⟨[], .nullCheck ?_ args, values⟩
    cases negated <;> decide

/-- The condition of an operation renders and prints something, even on a column without a name. -/
theorem condition_prints {operation : Builtin} {column : String} {args : List String}
    {condition : Expr} (made : operation.condition column args = .ok condition) :
    ∃ body, condition.render = .ok body ∧ body.isEmpty = false := by
  cases Builtin.makes_of_condition made with
  | compare op arg => exact ⟨_, rfl, by simp [Fragment.isEmpty_append]⟩
  | inList negated arg rest =>
    refine ⟨_, rfl, ?_⟩
    simp [Fragment.isEmpty, Fragment.push, Chunk.isBlank]
  | matching kind arg ignored => exact ⟨_, rfl, by simp [Fragment.isEmpty_append]⟩
  | isNull negated =>
    refine ⟨_, rfl, ?_⟩
    cases negated <;> simp [Fragment.isEmpty, Chunk.isBlank]

/-! Filters -/

/-- What a filter becomes: its condition, what this renders to, and the texts that it binds. -/
structure Part where
  condition : Expr
  body : Fragment
  texts : List String

/-- The part stands for the filter: its condition is granted, prints something, and binds exactly
what the operation of the predicate binds to its arguments. -/
structure Stands (policy : Policy) (filter : Filter) (part : Part) : Prop where
  granted : Grants policy filter part.condition
  rendered : part.condition.render = .ok part.body
  prints : part.body.isEmpty = false
  binds : ∃ predicate, policy.parser filter.predicate = .ok predicate ∧
    Binds predicate.operation predicate.args part.texts
  params : part.body.params = part.texts.map .text

variable {policy : Policy} {rules : List PageRule}

private theorem part_of_grant (builtin : policy.conditionOf = Registry.builtin.condition)
    {filter : Filter} {condition : Expr} (granted : Grants policy filter condition) :
    ∃ part, part.condition = condition ∧ Stands policy filter part := by
  obtain ⟨operations, column, predicate, make, allowed, resolved, parsed, member, registered,
    made⟩ := granted
  have known := registered
  rw [builtin] at known
  obtain ⟨operation, found, rfl⟩ := Registry.builtin_condition_eq_ok_iff.mp known
  obtain ⟨texts, binds, values⟩ := binds_of_condition made
  obtain ⟨body, rendered, prints⟩ := condition_prints made
  rw [Registry.name_of_operationNamed found] at binds
  refine ⟨⟨condition, body, texts⟩, rfl, ?_, rendered, prints, ⟨predicate, parsed, binds⟩, ?_⟩
  · exact ⟨operations, column, predicate, _, allowed, resolved, parsed, member, registered, made⟩
  · exact (Expr.params_of_render rendered).trans values

/-- Granted conditions are the parts of their filters, one for one. -/
theorem parts_of_grants (builtin : policy.conditionOf = Registry.builtin.condition)
    {filters : List Filter} {conditions : List Expr}
    (each : List.Forall₂ (Grants policy) filters conditions) :
    ∃ parts : List Part, parts.map Part.condition = conditions ∧
      List.Forall₂ (Stands policy) filters parts := by
  induction each with
  | nil => exact ⟨[], rfl, .nil⟩
  | cons granted _ later =>
    obtain ⟨part, rfl, stands⟩ := part_of_grant builtin granted
    obtain ⟨parts, rfl, others⟩ := later
    exact ⟨part :: parts, rfl, .cons stands others⟩

/-- The conditions render to the join of all bodies; there is nothing for a join to leave out. -/
theorem parts_render {filters : List Filter} {parts : List Part}
    (each : List.Forall₂ (Stands policy) filters parts) :
    Expr.renderJoined " AND " (parts.map Part.condition) =
        .ok (Fragment.join " AND " (parts.map Part.body)) ∧
      ∀ body ∈ parts.map Part.body, body.isEmpty = false := by
  suffices rendered : List.Forall₂ (fun node body => node.render = .ok body)
        (parts.map Part.condition) (parts.map Part.body) ∧
      ∀ body ∈ parts.map Part.body, body.isEmpty = false from
    ⟨Expr.renderJoined_eq_ok_iff.mpr ⟨_, rendered.1, rfl⟩, rendered.2⟩
  induction each with
  | nil => exact ⟨.nil, by simp⟩
  | cons stands _ later =>
    exact ⟨.cons stands.rendered later.1, List.forall_mem_cons.mpr ⟨stands.prints, later.2⟩⟩

/-- The texts of the conditions, their placeholders counted from one over all of them. -/
def conditionTexts (dialect : Dialect) (parts : List Part) : List String :=
  Fragment.textsFrom dialect 1 (parts.map Part.body)

/-- The text of the WHERE clause, if there are conditions. -/
def whereText (dialect : Dialect) (parts : List Part) : String :=
  if parts.isEmpty then "" else " WHERE " ++ " AND ".intercalate (conditionTexts dialect parts)

theorem text_where {parts : List Part} (print : ∀ body ∈ parts.map Part.body, body.isEmpty = false)
    (dialect : Dialect) :
    (Select.clause " WHERE " (Fragment.join " AND " (parts.map Part.body))).text dialect =
      whereText dialect parts := by
  cases parts with
  | nil => rfl
  | cons part rest =>
    have shown : (Fragment.join " AND " ((part :: rest).map Part.body)).isEmpty = false := by
      rw [Fragment.isEmpty_join, List.map_cons, List.all_cons, print part.body List.mem_cons_self]
      rfl
    have joined := Fragment.textFrom_intercalate dialect 1 " AND " ((part :: rest).map Part.body)
    rw [Select.clause, if_neg (Bool.eq_false_iff.mp shown), whereText, if_neg (by simp),
      conditionTexts, ← joined, Fragment.text_eq_textFrom, Fragment.chunks_append,
      Fragment.chunks_join_of_prints print]
    rfl

/-! Statements -/

/-- A statement that was built from nothing: its nodes are the resolved columns, a granted condition
for each filter, and sort terms. -/
structure Built (policy : Policy) (query : Query) (columns : List String) (select : Select) :
    Prop where
  resolved : policy.columns query = .ok columns
  columns : select.columns = columnNodes columns
  joins : select.joins = []
  conditions : List.Forall₂ (Grants policy) query.filters select.conditions
  groups : select.groups = []
  having : select.having = []
  ordering : ∃ terms, select.ordering = orderNodes terms

theorem built_of_build (paging : policy.extensions = rules.map extension) {context : Context}
    {query : Query} {select : Select} (built : policy.build context query = .ok select) :
    ∃ columns, Built policy query columns select := by
  obtain ⟨columns, conditions, terms, selected, filtered, -, ran⟩ := build_eq_ok_iff.mp built
  rw [paging] at ran
  have frame := runAll_frame ran
  rw [assembled_eq, Option.getD_none] at frame
  rw [frame]
  exact ⟨columns, { resolved := selected, columns := rfl, joins := rfl,
                    conditions := conditions_eq_ok_iff.mp filtered, groups := rfl, having := rfl,
                    ordering := ⟨terms, rfl⟩ }⟩

/-- Columns render without values, and to nothing exactly when none of them has a name. -/
theorem columns_render (names : List String) :
    ∃ body, Expr.renderJoined ", " (columnNodes names) = .ok body ∧ body.params = [] ∧
      (body.isEmpty = true ↔ ∀ name ∈ names, name = "") := by
  have rendered : ∃ body, Expr.renderJoined ", " (columnNodes names) = .ok body ∧
      (body.isEmpty = true ↔ ∀ name ∈ names, name = "") := by
    cases names with
    | nil => exact ⟨_, rfl, by simp [Fragment.isEmpty_join]⟩
    | cons name rest => exact ⟨_, rfl, by simp [Fragment.isEmpty_join, Fragment.isEmpty_raw]⟩
  obtain ⟨body, rendered, blank⟩ := rendered
  exact ⟨body, rendered, (Expr.params_of_renderJoined rendered).trans (values_columnNodes names),
    blank⟩

/-- Sort terms always render, and hold no values. -/
theorem ordering_renders (terms : List SortTerm) :
    ∃ body, Expr.renderJoined ", " (orderNodes terms) = .ok body ∧ body.params = [] := by
  have rendered : ∃ body, Expr.renderJoined ", " (orderNodes terms) = .ok body := by
    cases terms <;> exact ⟨_, rfl⟩
  obtain ⟨body, rendered⟩ := rendered
  exact ⟨body, rendered, (Expr.params_of_renderJoined rendered).trans (values_orderNodes terms)⟩

/-- The statement renders with every filter in its place: one condition for each, in order, joined
by AND from the first placeholder on, and the texts that they bind as its only parameters. -/
structure Complete (policy : Policy) (query : Query) (select : Select) (dialect : Dialect)
    (statement : Statement) (parts : List Part) : Prop where
  stands : List.Forall₂ (Stands policy) query.filters parts
  conditions : select.conditions = parts.map Part.condition
  text : ∃ clauses, select.RendersTo clauses ∧ statement.text =
    (select.front clauses).text dialect ++ whereText dialect parts
      ++ (select.back clauses).text dialect
  count : (conditionTexts dialect parts).length = query.filters.length
  printed : ∀ text ∈ conditionTexts dialect parts, text ≠ ""
  params : statement.params = parts.flatMap fun part => part.texts.map .text

private theorem flatMap_params {filters : List Filter} {parts : List Part}
    (each : List.Forall₂ (Stands policy) filters parts) :
    (parts.map Part.body).flatMap Fragment.params =
      parts.flatMap fun part => part.texts.map Value.text := by
  induction each with
  | nil => rfl
  | cons stands _ later =>
    rw [List.map_cons, List.flatMap_cons, stands.params, later, List.flatMap_cons]

/-- A built statement with a named column renders. Its conditions are the join of all bodies, and no
other clause holds a value. -/
theorem clauses_of_built {query : Query} {columns : List String} {select : Select}
    (built : Built policy query columns select) (visible : ∃ column ∈ columns, column ≠ "")
    {parts : List Part} (stands : List.Forall₂ (Stands policy) query.filters parts)
    (listed : parts.map Part.condition = select.conditions) :
    ∃ clauses, select.RendersTo clauses ∧
      clauses.conditions = Fragment.join " AND " (parts.map Part.body) ∧
      (select.front clauses).params = [] ∧ (select.back clauses).params = [] := by
  obtain ⟨selected, columnsRendered, columnsUnvalued, blank⟩ := columns_render columns
  obtain ⟨terms, ordered⟩ := built.ordering
  obtain ⟨sorted, orderingRendered, orderingUnvalued⟩ := ordering_renders terms
  have shown : selected.isEmpty = false := by
    obtain ⟨column, member, named⟩ := visible
    exact Bool.eq_false_iff.mpr fun empty => named (blank.mp empty column member)
  have nothing (separator : String) :
      Expr.renderJoined separator [] = .ok (Fragment.join separator []) := rfl
  refine ⟨⟨selected, Fragment.join " " [], Fragment.join " AND " (parts.map Part.body),
    Fragment.join " AND " [], sorted⟩, ?_, rfl, ?_, ?_⟩
  · exact { columns := by rw [built.columns, columnsRendered]
            visible := shown
            joins := by rw [built.joins, nothing]
            conditions := by rw [← listed, (parts_render stands).1]
            having := by rw [built.having, nothing]
            ordering := by rw [ordered, orderingRendered] }
  · rw [Select.params_front, columnsUnvalued]
    rfl
  · rw [Select.params_back, orderingUnvalued]
    rfl

theorem complete_of_built (builtin : policy.conditionOf = Registry.builtin.condition)
    {query : Query} {columns : List String} {select : Select}
    (built : Built policy query columns select) (visible : ∃ column ∈ columns, column ≠ "")
    (dialect : Dialect) :
    ∃ statement parts, select.build dialect = .ok statement ∧
      Complete policy query select dialect statement parts := by
  obtain ⟨parts, listed, stands⟩ := parts_of_grants builtin built.conditions
  obtain ⟨clauses, ready, joined, front, back⟩ := clauses_of_built built visible stands listed
  have print := (parts_render stands).2
  have rendered : select.render = .ok (select.assemble clauses) :=
    Select.render_eq_ok_iff.mpr ⟨clauses, ready, rfl⟩
  have written : select.build dialect =
      .ok ⟨(select.assemble clauses).text dialect, (select.assemble clauses).params⟩ := by
    rw [Select.build_eq, rendered]
    rfl
  refine ⟨_, parts, written, ?_⟩
  refine { stands := stands, conditions := listed.symm, text := ⟨clauses, ready, ?_⟩,
           count := ?_, printed := Fragment.mem_textsFrom_ne_empty print dialect 1, params := ?_ }
  · rw [← text_where print dialect, ← joined]
    exact Select.text_assemble front back dialect
  · rw [conditionTexts, Fragment.length_textsFrom, List.length_map, stands.length_eq]
  · dsimp only
    rw [← flatMap_params stands, ← Fragment.params_join " AND ", ← joined,
      Select.params_around_conditions, front, back]
    exact List.append_nil _

/-- A built statement without a named column has no columns to render. -/
theorem missing_of_built {query : Query} {columns : List String} {select : Select}
    (built : Built policy query columns select) (unnamed : ∀ column ∈ columns, column = "")
    (dialect : Dialect) : select.build dialect = .error .missingColumns := by
  obtain ⟨selected, rendered, -, blank⟩ := columns_render columns
  rw [← built.columns] at rendered
  exact Select.build_eq_missing rendered (blank.mpr unnamed) dialect

/-- Under any policy with the built-in conditions and extensions, for any resolver, parser and
allow-lists and any query: what is built from nothing renders in every dialect exactly when some
resolved column has a name, and then completely; else its columns are missing. -/
theorem built_statement_renders (builtin : policy.conditionOf = Registry.builtin.condition)
    (paging : policy.extensions = rules.map extension) {context : Context} {query : Query}
    {select : Select} (succeeded : policy.build context query = .ok select) (dialect : Dialect) :
    ∃ columns, policy.columns query = .ok columns ∧
      ((∃ statement, select.build dialect = .ok statement) ↔ ∃ column ∈ columns, column ≠ "") ∧
      ((¬ ∃ column ∈ columns, column ≠ "") → select.build dialect = .error .missingColumns) ∧
      ∀ statement, select.build dialect = .ok statement →
        ∃ parts, Complete policy query select dialect statement parts := by
  obtain ⟨columns, built⟩ := built_of_build paging succeeded
  have missing (unseen : ¬ ∃ column ∈ columns, column ≠ "") :
      select.build dialect = .error .missingColumns :=
    missing_of_built built (by simpa using unseen) dialect
  have named (statement : Statement) (rendered : select.build dialect = .ok statement) :
      ∃ column ∈ columns, column ≠ "" := by
    by_contra unseen
    rw [missing unseen] at rendered
    cases rendered
  refine ⟨columns, built.resolved, ⟨?_, ?_⟩, missing, ?_⟩
  · rintro ⟨statement, rendered⟩
    exact named statement rendered
  · intro visible
    obtain ⟨statement, -, rendered, -⟩ := complete_of_built builtin built visible dialect
    exact ⟨statement, rendered⟩
  · intro statement rendered
    obtain ⟨same, parts, again, complete⟩ :=
      complete_of_built builtin built (named statement rendered) dialect
    rw [rendered] at again
    cases again
    exact ⟨parts, complete⟩

def orders : Policy :=
  { ((Policy.new "orders" fun names => .ok names).withDefaultFields ["", "id"]).withFilters
      (.ofList [("note", ["contains"]), ("", ["in", "null"])]) with
    parser := fun text =>
      if text = "null" then .ok ⟨"null", ["ignored"]⟩
      else if text = "members" then .ok ⟨"in", ["", "?"]⟩
      else .ok ⟨"contains", [text, "ignored"]⟩ }

def orderQuery : Query where
  filters := [⟨"note", "50%"⟩, ⟨"", "members"⟩, ⟨"", "null"⟩]

theorem orders_render_completely :
    orders.conditionOf = Registry.builtin.condition ∧
      orders.extensions = ([] : List PageRule).map extension ∧
      ∃ select statement parts, orders.build {} orderQuery = .ok select ∧
        select.build .postgresql = .ok statement ∧
        Complete orders orderQuery select .postgresql statement parts ∧
        statement.params = [.text "%50%%", .text "", .text "?"] := by
  have succeeded : orders.build {} orderQuery = .ok _ := rfl
  have registry : orders.conditionOf = Registry.builtin.condition := rfl
  have paging : orders.extensions = ([] : List PageRule).map extension := rfl
  obtain ⟨columns, resolved, renders, -, complete⟩ :=
    built_statement_renders registry paging succeeded .postgresql
  cases resolved
  obtain ⟨statement, rendered⟩ := renders.mpr ⟨"id", by decide, by decide⟩
  obtain ⟨parts, whole⟩ := complete statement rendered
  refine ⟨registry, paging, _, statement, parts, succeeded, rendered, whole, ?_⟩
  cases rendered
  rfl

end QueryGate.FilterRendering
