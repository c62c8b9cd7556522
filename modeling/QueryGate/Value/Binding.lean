import QueryGate.Value

/-! What a value becomes in a database that has no truth values. -/
namespace QueryGate

/-- The storage classes of the database. -/
inductive Binding where
  | null
  | integer (value : Int64)
  | real (value : Float)
  | text (value : String)
  | blob (bytes : List UInt8)

/-- Truth values are stored as the integers one and zero. -/
def Value.binding : Value → Binding
  | null => .null
  | bool b => .integer (if b then 1 else 0)
  | integer n => .integer n
  | real x => .real x
  | text t => .text t
  | blob bytes => .blob bytes

end QueryGate
