import QueryGate.Error
import QueryGate.Table
import QueryGate.Text.SnakeCase

/-! The columns behind the names that a query uses. -/
namespace QueryGate

/-- Gives the columns of a batch of names, or refuses it. -/
abbrev Resolver := List String → Except Error (List String)

namespace Resolver

/-- The column of one name, which must be in the table. -/
def column (table : Table String) (name : String) : Except Error String :=
  match table.find? name with
  | some column => .ok column
  | none => .error (.unresolved name .unknownName)

/-- Looks names up in a table; the first missing name decides. -/
def ofTable (table : Table String) : Resolver := fun names => names.mapM (column table)

/-- Writes names in snake case, after a qualifier and a dot if there is one. -/
def snakeCase (qualifier : Option String) : Resolver := fun names =>
  let qualify := fun column => match qualifier with
    | some qualifier => qualifier ++ "." ++ column
    | none => column
  .ok (names.map fun name => qualify (Text.snakeCase name))

/-- A resolver that must return one column for every name. The entry of the error is the first
name without a column, or the empty text when there are too many columns. -/
def exact (resolver : Resolver) : Resolver := fun names => do
  let columns ← resolver names
  if columns.length = names.length then return columns
  else throw (.unresolved (names[columns.length]?.getD "")
    (.wrongCount columns.length names.length))

end Resolver

end QueryGate
