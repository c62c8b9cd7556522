import QueryGate.Condition
import QueryGate.Table
import QueryGate.Text.Quoted

/-! The operations that filters may use, by name. -/
namespace QueryGate

/-- Conditions under their operation names. The last one written under a name counts, at the
place where the name first came. -/
abbrev Registry := Table Condition

namespace Registry

/-- The built-in operations. -/
def builtin : Registry :=
  Table.ofList (Builtin.all.map fun operation => (operation.name, operation.condition))

/-- The condition of an operation, which must be registered. -/
def condition (registry : Registry) (operation : String) : Except Error Condition :=
  match registry.find? operation with
  | some condition => .ok condition
  | none => .error (.undefinedOperation operation)

theorem condition_eq_ok_iff {registry : Registry} {operation : String} {make : Condition} :
    registry.condition operation = .ok make ↔ registry.find? operation = some make := by
  rw [condition]
  cases registry.find? operation <;> simp

theorem condition_eq_error_iff {registry : Registry} {operation : String} {error : Error} :
    registry.condition operation = .error error ↔
      operation ∉ registry.names ∧ error = .undefinedOperation operation := by
  rw [condition, ← Table.contains_iff, Table.contains]
  cases registry.find? operation with
  | none => simp [eq_comm]
  | some make => simp

/-- The registry as a log shows it: the set of its names. -/
def described (registry : Registry) : String := Text.quotedSet registry.names

end Registry

end QueryGate
