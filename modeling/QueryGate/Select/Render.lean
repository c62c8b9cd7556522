import QueryGate.Expr.Render
import QueryGate.Select

/-! Statements rendered clause by clause. A clause whose nodes print nothing is left out. -/
namespace QueryGate.Select

/-- A keyword before a body, or nothing when the body prints nothing. -/
def clause (keyword : String) (body : Fragment) : Fragment :=
  if body.isEmpty then .empty else Fragment.raw keyword ++ body

/-- The GROUP BY clause, with the names as they were given. -/
def groupClause (names : List String) : Fragment :=
  if names.isEmpty then .empty else .raw (" GROUP BY " ++ ", ".intercalate names)

/-- A keyword before a number, if there is one. -/
def numberClause (keyword : String) : Option UInt64 → Fragment
  | none => .empty
  | some number => .raw (keyword ++ Text.natural number.toNat)

def opening (select : Select) : String :=
  if select.distinct then "SELECT DISTINCT " else "SELECT "

/-- The fragment of a statement. The first fault decides, in the order columns, absence of
columns, joins, conditions, HAVING and ordering. -/
def render (select : Select) : Except RenderError Fragment := do
  let columns ← Expr.renderJoined ", " select.columns
  if columns.isEmpty then throw .missingColumns
  let joins ← Expr.renderJoined " " select.joins
  let conditions ← Expr.renderJoined " AND " select.conditions
  let having ← Expr.renderJoined " AND " select.having
  let ordering ← Expr.renderJoined ", " select.ordering
  return Fragment.raw select.opening ++ columns
    ++ clause " FROM " (Fragment.raw (select.source.getD ""))
    ++ clause " " joins
    ++ clause " WHERE " conditions
    ++ groupClause select.groups
    ++ clause " HAVING " having
    ++ clause " ORDER BY " ordering
    ++ numberClause " LIMIT " select.limit
    ++ numberClause " OFFSET " select.offset

/-- The statement in a dialect. -/
def build (select : Select) (dialect : Dialect) : Except RenderError Statement :=
  select.render.map (·.intoStatement dialect)

end QueryGate.Select
