import QueryGate.Proofs.RenderingProofs
import QueryGate.Select.Render

/-! Statements against what they render to. Success is opened once, clause by clause; from it follow
the values that a statement holds, in the order of its clauses, and that replacing the values
changes nothing else. -/
namespace QueryGate.Select
open QueryGate.Expr Outcomes

/-- What the nodes of a statement render to, clause by clause. -/
structure Clauses where
  columns : Fragment
  joins : Fragment
  conditions : Fragment
  having : Fragment
  ordering : Fragment

/-- Every clause renders, and some column prints something. -/
structure RendersTo (select : Select) (clauses : Clauses) : Prop where
  columns : renderJoined ", " select.columns = .ok clauses.columns
  visible : clauses.columns.isEmpty = false
  joins : renderJoined " " select.joins = .ok clauses.joins
  conditions : renderJoined " AND " select.conditions = .ok clauses.conditions
  having : renderJoined " AND " select.having = .ok clauses.having
  ordering : renderJoined ", " select.ordering = .ok clauses.ordering

/-- The statement around its rendered clauses. -/
def assemble (select : Select) (clauses : Clauses) : Fragment :=
  Fragment.raw select.opening ++ clauses.columns
    ++ clause " FROM " (Fragment.raw (select.source.getD ""))
    ++ clause " " clauses.joins
    ++ clause " WHERE " clauses.conditions
    ++ groupClause select.groups
    ++ clause " HAVING " clauses.having
    ++ clause " ORDER BY " clauses.ordering
    ++ numberClause " LIMIT " select.limit
    ++ numberClause " OFFSET " select.offset

/-- The clauses of a statement are rendered one after the other, once some column is seen. -/
theorem render_eq (select : Select) :
    select.render = (do
      let columns ← renderJoined ", " select.columns
      if columns.isEmpty then .error .missingColumns
      else do
        let joins ← renderJoined " " select.joins
        let conditions ← renderJoined " AND " select.conditions
        let having ← renderJoined " AND " select.having
        (renderJoined ", " select.ordering).map fun ordering =>
          select.assemble ⟨columns, joins, conditions, having, ordering⟩) := rfl

/-- A statement renders exactly when its clauses do, to these clauses in their order. -/
theorem render_eq_ok_iff {select : Select} {fragment : Fragment} :
    select.render = .ok fragment ↔
      ∃ clauses, select.RendersTo clauses ∧ select.assemble clauses = fragment := by
  constructor
  · intro rendered
    simp only [render_eq, bind_eq_ok_iff] at rendered
    obtain ⟨columns, columnsRendered, rendered⟩ := rendered
    cases visible : columns.isEmpty with
    | true => simp [visible] at rendered
    | false =>
      simp only [visible, Bool.false_eq_true, ↓reduceIte, bind_eq_ok_iff, map_eq_ok_iff] at rendered
      obtain ⟨joins, joinsRendered, conditions, conditionsRendered, having, havingRendered,
        ordering, orderingRendered, whole⟩ := rendered
      exact ⟨⟨columns, joins, conditions, having, ordering⟩, ⟨columnsRendered, visible,
        joinsRendered, conditionsRendered, havingRendered, orderingRendered⟩, whole⟩
  · rintro ⟨clauses, ready, rfl⟩
    simp only [render_eq, ready.columns, ready.joins, ready.conditions, ready.having,
      ready.ordering, bind, Except.bind, Except.map, ready.visible]
    rfl

/-- Statements whose clauses render alike, each for itself, and which agree in everything else. -/
structure PrintsLike (first second : Select) : Prop where
  columns : renderJoined ", " first.columns = renderJoined ", " second.columns
  source : first.source = second.source
  joins : renderJoined " " first.joins = renderJoined " " second.joins
  conditions : renderJoined " AND " first.conditions = renderJoined " AND " second.conditions
  groups : first.groups = second.groups
  having : renderJoined " AND " first.having = renderJoined " AND " second.having
  ordering : renderJoined ", " first.ordering = renderJoined ", " second.ordering
  limit : first.limit = second.limit
  offset : first.offset = second.offset
  distinct : first.distinct = second.distinct

theorem PrintsLike.refl (select : Select) : PrintsLike select select :=
  ⟨rfl, rfl, rfl, rfl, rfl, rfl, rfl, rfl, rfl, rfl⟩

theorem PrintsLike.trans {first second third : Select} (alike : PrintsLike first second)
    (more : PrintsLike second third) : PrintsLike first third where
  columns := alike.columns.trans more.columns
  source := alike.source.trans more.source
  joins := alike.joins.trans more.joins
  conditions := alike.conditions.trans more.conditions
  groups := alike.groups.trans more.groups
  having := alike.having.trans more.having
  ordering := alike.ordering.trans more.ordering
  limit := alike.limit.trans more.limit
  offset := alike.offset.trans more.offset
  distinct := alike.distinct.trans more.distinct

/-- What a statement is built to, or the fault that it has, shows in its clauses. -/
theorem PrintsLike.build_eq {first second : Select} (alike : PrintsLike first second)
    (dialect : Dialect) : first.build dialect = second.build dialect := by
  have rendered : first.render = second.render := by
    simp only [render, opening, alike.columns, alike.source, alike.joins, alike.conditions,
      alike.groups, alike.having, alike.ordering, alike.limit, alike.offset, alike.distinct]
  rw [build, build, rendered]

/-- The values that a statement holds up to the end of its WHERE clause. -/
def valuesThroughConditions (select : Select) : List Value :=
  valuesEach select.columns ++ valuesEach select.joins ++ valuesEach select.conditions

/-- The values that a statement holds after its WHERE clause. -/
def valuesAfterConditions (select : Select) : List Value :=
  valuesEach select.having ++ valuesEach select.ordering

/-- The values of a statement, clause by clause. -/
def values (select : Select) : List Value :=
  select.valuesThroughConditions ++ select.valuesAfterConditions

theorem params_clause (keyword : String) (body : Fragment) :
    (clause keyword body).params = body.params := by
  rw [clause]
  split
  · rename_i blank
    rw [Fragment.params_empty, Fragment.params_eq_nil_of_isEmpty blank]
  · simp [Fragment.params_append]

theorem params_groupClause (names : List String) : (groupClause names).params = [] := by
  rw [groupClause]
  split <;> rfl

theorem params_numberClause (keyword : String) (number : Option UInt64) :
    (numberClause keyword number).params = [] := by
  cases number <;> rfl

theorem params_assemble (select : Select) (clauses : Clauses) :
    (select.assemble clauses).params =
      clauses.columns.params ++ clauses.joins.params ++ clauses.conditions.params
        ++ clauses.having.params ++ clauses.ordering.params := by
  simp [assemble, Fragment.params_append, params_clause, params_groupClause, params_numberClause]

/-- A rendered statement holds exactly the values of its nodes, clause by clause. -/
theorem params_of_render {select : Select} {fragment : Fragment}
    (rendered : select.render = .ok fragment) : fragment.params = select.values := by
  obtain ⟨clauses, ready, rfl⟩ := render_eq_ok_iff.mp rendered
  rw [params_assemble, params_of_renderJoined ready.columns, params_of_renderJoined ready.joins,
    params_of_renderJoined ready.conditions, params_of_renderJoined ready.having,
    params_of_renderJoined ready.ordering]
  simp [values, valuesThroughConditions, valuesAfterConditions]

/-- A built statement is its rendering, as text and as values. -/
theorem build_eq (select : Select) (dialect : Dialect) :
    select.build dialect =
      select.render.map fun fragment => ⟨fragment.text dialect, fragment.params⟩ := by
  simp only [build, Fragment.intoStatement_eq_text_params]

/-- What is built is written from clauses that render. -/
theorem exists_clauses_of_build {select : Select} {dialect : Dialect} {statement : Statement}
    (built : select.build dialect = .ok statement) :
    ∃ clauses, select.RendersTo clauses ∧
      statement = ⟨(select.assemble clauses).text dialect, (select.assemble clauses).params⟩ := by
  rw [build_eq, map_eq_ok_iff] at built
  obtain ⟨fragment, rendered, rfl⟩ := built
  obtain ⟨clauses, ready, rfl⟩ := render_eq_ok_iff.mp rendered
  exact ⟨clauses, ready, rfl⟩

/-- A built statement holds exactly the values of its nodes too, in every dialect. -/
theorem params_of_build {select : Select} {dialect : Dialect} {statement : Statement}
    (built : select.build dialect = .ok statement) : statement.params = select.values := by
  obtain ⟨clauses, ready, rfl⟩ := exists_clauses_of_build built
  exact params_of_render (render_eq_ok_iff.mpr ⟨clauses, ready, rfl⟩)

/-- The statement with every value replaced. -/
def mapValues (change : Value → Value) (select : Select) : Select :=
  { select with
    columns := select.columns.map (Expr.mapValues change)
    joins := select.joins.map (Expr.mapValues change)
    conditions := select.conditions.map (Expr.mapValues change)
    having := select.having.map (Expr.mapValues change)
    ordering := select.ordering.map (Expr.mapValues change) }

theorem mapValues_clause (change : Value → Value) (keyword : String) (body : Fragment) :
    (clause keyword body).mapValues change = clause keyword (body.mapValues change) := by
  simp only [clause, Fragment.isEmpty_mapValues]
  split <;> simp

private theorem mapValues_groupClause (change : Value → Value) (names : List String) :
    (groupClause names).mapValues change = groupClause names := by
  rw [groupClause]
  split <;> rfl

private theorem mapValues_numberClause (change : Value → Value) (keyword : String)
    (number : Option UInt64) :
    (numberClause keyword number).mapValues change = numberClause keyword number := by
  cases number <;> rfl

/-- No clause of a statement looks at a value. -/
theorem render_mapValues (change : Value → Value) (select : Select) :
    (select.mapValues change).render = select.render.map (Fragment.mapValues change) := by
  simp only [render, mapValues, renderJoined_mapValues, map_bind, bind_map,
    Fragment.isEmpty_mapValues]
  refine bind_congr fun columns => ?_
  split
  · rfl
  · simp only [bind_map]
    refine bind_congr fun joins => bind_congr fun conditions => bind_congr fun having =>
      bind_congr fun ordering => ?_
    simp [pure, Except.pure, Except.map, mapValues_clause, mapValues_groupClause,
      mapValues_numberClause, opening]

end QueryGate.Select
