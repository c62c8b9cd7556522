import QueryGate.Error
import QueryGate.Query
import QueryGate.Select

/-! Extensions run after a statement has been assembled and may change it. -/
namespace QueryGate

/-- What surrounds one build. -/
structure Context where
  cancelled : Bool := false

/-- What an extension leaves behind. The changes made before a failure stay visible. -/
structure Outcome where
  select : Select
  failure : Option Error

abbrev Extension := Context → Query → Select → Outcome

namespace Outcome

def done (select : Select) : Outcome := ⟨select, none⟩

def failed (select : Select) (error : Error) : Outcome := ⟨select, some error⟩

/-- The statement, unless the extension failed. -/
def toExcept (outcome : Outcome) : Except Error Select :=
  match outcome.failure with
  | none => .ok outcome.select
  | some error => .error error

theorem toExcept_eq_ok_iff {outcome : Outcome} {select : Select} :
    outcome.toExcept = .ok select ↔ outcome = .done select := by
  obtain ⟨left, failure⟩ := outcome
  cases failure <;> simp [toExcept, done]

theorem toExcept_eq_error_iff {outcome : Outcome} {error : Error} :
    outcome.toExcept = .error error ↔ outcome.failure = some error := by
  rw [toExcept]
  cases outcome.failure <;> simp

end Outcome

/-- Runs extensions in order; the first failure ends the run. -/
def Extension.runAll (extensions : List Extension) (context : Context) (query : Query)
    (select : Select) : Except Error Select :=
  extensions.foldlM (fun select extension => (extension context query select).toExcept) select

end QueryGate
