import QueryGate.Proofs.Outcomes
import QueryGate.Proofs.RenderingProofs
import QueryGate.Registry

/-! The built-in conditions. Each is found under its own name, looks at the number of arguments
only, and binds its arguments one by one. -/
namespace QueryGate
open Outcomes

/-- The value that stands for every value when only the shape of a statement counts. -/
def Value.blank (_ : Value) : Value := .null

namespace Builtin

/-- The condition that an operation makes of a column and arguments. -/
inductive Makes (column : String) : Builtin → List String → Expr → Prop where
  | compare (op : Comparison) (arg : String) :
      Makes column (compare op) [arg] (.compare column op (.text arg))
  | inList (negated : Bool) (arg : String) (rest : List String) :
      Makes column (inList negated) (arg :: rest) (.inList column ((arg :: rest).map .text) negated)
  | matching (kind : PatternKind) (arg : String) (ignored : List String) :
      Makes column (matching kind) (arg :: ignored) (.like column (.text (kind.pattern arg)))
  | isNull (negated : Bool) (ignored : List String) :
      Makes column (isNull negated) ignored (.isNull column negated)

theorem makes_of_condition {operation : Builtin} {column : String} {args : List String}
    {condition : Expr} (made : operation.condition column args = .ok condition) :
    Makes column operation args condition := by
  cases operation with
  | compare op =>
    match args, made with
    | [arg], made =>
      cases made
      exact .compare op arg
  | inList negated =>
    cases args with
    | nil => cases made
    | cons arg rest =>
      cases made
      exact .inList negated arg rest
  | matching kind =>
    cases args with
    | nil => cases made
    | cons arg rest =>
      cases made
      exact .matching kind arg rest
  | isNull negated =>
    cases made
    exact .isNull negated args

/-- An operation refuses nothing but its arguments, and says so under its own name. -/
theorem refusal_of_condition {operation : Builtin} {column : String} {args : List String}
    {error : Error} (refused : operation.condition column args = .error error) :
    ∃ fault, error = .invalidArguments operation.name fault := by
  cases operation with
  | compare op =>
    match args, refused with
    | [], refused => cases refused; exact ⟨_, rfl⟩
    | _ :: _ :: _, refused => cases refused; exact ⟨_, rfl⟩
  | inList negated =>
    cases args with
    | nil => cases refused; exact ⟨_, rfl⟩
    | cons arg rest => cases refused
  | matching kind =>
    cases args with
    | nil => cases refused; exact ⟨_, rfl⟩
    | cons arg rest => cases refused
  | isNull negated => cases refused

/-- The values that the condition of an operation binds to its arguments. -/
def bound : Builtin → List String → List Value
  | compare _, args => args.map .text
  | inList _, args => args.map .text
  | matching kind, args => (args.take 1).map fun arg => .text (kind.pattern arg)
  | isNull _, _ => []

/-- The condition of an operation binds its arguments, and holds no other value. -/
theorem values_of_condition {operation : Builtin} {column : String} {args : List String}
    {condition : Expr} (made : operation.condition column args = .ok condition) :
    condition.values = operation.bound args := by
  cases makes_of_condition made <;> rfl

private theorem hidden_texts {first second : List String} (count : first.length = second.length) :
    (first.map Value.text).map Value.blank = (second.map Value.text).map Value.blank := by
  have replaced (texts : List String) :
      (texts.map Value.text).map Value.blank = List.replicate texts.length Value.null := by
    rw [List.map_map]
    exact List.map_const'
  rw [replaced, replaced, count]

/-- As many arguments of whatever text fail with the same error, or lead to conditions that differ
in their values only. -/
theorem condition_alike (operation : Builtin) (column : String) {first second : List String}
    (count : first.length = second.length) :
    Alike (fun a b => a.mapValues .blank = b.mapValues .blank)
      (operation.condition column first) (operation.condition column second) := by
  cases operation with
  | compare op =>
    match first, second, count with
    | [], [], _ => exact .error _
    | [arg], [other], _ => exact .ok rfl
    | _ :: _ :: _, _ :: _ :: _, count =>
      simp only [condition, count]
      exact .error _
  | inList negated =>
    cases first with
    | nil =>
      cases List.eq_nil_of_length_eq_zero count.symm
      exact .error _
    | cons arg rest =>
      obtain ⟨other, others, rfl⟩ := List.exists_cons_of_length_eq_add_one count.symm
      refine .ok ?_
      have hidden := hidden_texts count
      simp only [Expr.mapValues, hidden]
  | matching kind =>
    cases first with
    | nil =>
      cases List.eq_nil_of_length_eq_zero count.symm
      exact .error _
    | cons arg rest =>
      obtain ⟨other, others, rfl⟩ := List.exists_cons_of_length_eq_add_one count.symm
      exact .ok rfl
  | isNull negated => exact .ok rfl

end Builtin

namespace Registry

private theorem lookup_map {α : Type} (name : String) (value : Builtin → α) (all : List Builtin) :
    Table.lookup name (all.map fun operation => (operation.name, value operation)) =
      (all.find? (·.name = name)).map value := by
  induction all with
  | nil => rfl
  | cons operation rest later =>
    rw [List.map_cons, Table.lookup, List.find?_cons]
    by_cases named : operation.name = name
    · simp [named]
    · simp [named, later]

private theorem builtin_entries : builtin.entries =
    Builtin.all.map fun operation => (operation.name, operation.condition) := rfl

/-- The built-in operation of a name. -/
def operationNamed (name : String) : Option Builtin := Builtin.all.find? (·.name = name)

/-- The built-in registry knows the built-in operations by their names, and no others. -/
theorem builtin_condition (name : String) :
    builtin.condition name =
      match operationNamed name with
      | some operation => .ok operation.condition
      | none => .error (.undefinedOperation name) := by
  have found : builtin.find? name = (operationNamed name).map Builtin.condition := by
    rw [Table.find?, builtin_entries, lookup_map, operationNamed]
  rw [condition, found]
  cases operationNamed name <;> rfl

theorem builtin_condition_eq_ok_iff {name : String} {make : Condition} :
    builtin.condition name = .ok make ↔
      ∃ operation, operationNamed name = some operation ∧ operation.condition = make := by
  rw [builtin_condition]
  cases operationNamed name <;> simp

theorem name_of_operationNamed {name : String} {operation : Builtin}
    (found : operationNamed name = some operation) : operation.name = name := by
  simpa using List.find?_some found

/-- The same holds for the condition that is registered under a name, if there is one. -/
theorem registered_alike (name column : String) {first second : List String}
    (count : first.length = second.length) :
    Alike (fun a b => a.mapValues .blank = b.mapValues .blank)
      (builtin.condition name >>= fun make => make column first)
      (builtin.condition name >>= fun make => make column second) := by
  rw [builtin_condition]
  cases operationNamed name with
  | none => exact .error _
  | some operation => exact Builtin.condition_alike operation column count

end Registry

end QueryGate
