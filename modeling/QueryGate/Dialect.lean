import QueryGate.Text.Numeral

/-! The dialects of SQL. They differ only in how placeholders are written. -/
namespace QueryGate

inductive Dialect where
  | sqlite
  | postgresql
  | mysql
  deriving DecidableEq

namespace Dialect

instance : Inhabited Dialect := ⟨sqlite⟩

def name : Dialect → String
  | sqlite => "sqlite"
  | postgresql => "postgresql"
  | mysql => "mysql"

/-- Whether a placeholder carries the position of its value. -/
def numbered : Dialect → Bool
  | postgresql => true
  | _ => false

/-- The placeholder of the value at a position, counted from one. -/
def placeholder (dialect : Dialect) (position : Nat) : String :=
  if dialect.numbered then "$" ++ Text.natural position else "?"

end Dialect

end QueryGate
