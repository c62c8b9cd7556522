import QueryGate.Proofs.TableWrites
import QueryGate.Registry

/-! What a registry knows after it was put together. Whatever the steps were, it answers with the
condition that was written last under a name and lists the names in the order in which they were
first written, as far back as the last step that started anew. A registry laid over another counts
as the writes that made it. -/
namespace QueryGate.RegistryHistory
open Table

/-- One step in putting a registry together. -/
inductive Step where
  /-- Starts anew, without operations. -/
  | new
  /-- Starts anew, with the built-in operations. -/
  | builtin
  /-- Registers a condition, one of its own or one that other registries share. -/
  | insert (name : String) (condition : Condition)
  /-- Lays a registry over the one so far. It is put together in the same way. -/
  | overlay (steps : List Step)

mutual

/-- The registry after one step. -/
def apply (registry : Registry) : Step → Registry
  | .new => ∅
  | .builtin => .builtin
  | .insert name condition => registry.insert name condition
  | .overlay steps => registry.overlay (applyAll ∅ steps)

/-- The registry after steps in order. -/
def applyAll (registry : Registry) : List Step → Registry
  | [] => registry
  | step :: rest => applyAll (apply registry step) rest

end

/-- The writes of the built-in operations. -/
def builtinWrites : List (String × Condition) :=
  Builtin.all.map fun operation => (operation.name, operation.condition)

mutual

/-- The writes since the last start, once one more step is made. A registry that is laid over the
one so far adds its own writes since its last start. -/
def record (writes : List (String × Condition)) : Step → List (String × Condition)
  | .new => []
  | .builtin => builtinWrites
  | .insert name condition => writes ++ [(name, condition)]
  | .overlay steps => writes ++ recordAll [] steps

/-- The writes since the last start, once more steps are made. -/
def recordAll (writes : List (String × Condition)) : List Step → List (String × Condition)
  | [] => writes
  | step :: rest => recordAll (record writes step) rest

end

/-- The registry knows what the writes put into it. -/
structure Knows (registry : Registry) (writes : List (String × Condition)) : Prop where
  latest : ∀ name condition,
    registry.condition name = .ok condition ↔ LastWrites writes name condition
  undefined : ∀ name error, registry.condition name = .error error ↔
    name ∉ writes.map Prod.fst ∧ error = .undefinedOperation name
  /-- Each name is listed once, at its first place. -/
  names : registry.names = (writes.map Prod.fst).eraseDups
  size : registry.size = (writes.map Prod.fst).eraseDups.length
  contains : ∀ name, registry.contains name = true ↔ name ∈ writes.map Prod.fst
  isEmpty : registry.isEmpty = true ↔ writes = []

/-! One step and many -/

mutual

/-- What a step makes of the table of the writes before it is the table of the writes after it. -/
theorem apply_ofList (writes : List (String × Condition)) :
    ∀ step : Step, apply (ofList writes) step = ofList (record writes step)
  | .new => by
    rw [apply, record]
    rfl
  | .builtin => by
    rw [apply, record]
    rfl
  | .insert name condition => by
    rw [apply, record, ofList_append]
    rfl
  | .overlay steps => by
    have laid : applyAll ∅ steps = ofList (recordAll [] steps) := applyAll_ofList [] steps
    rw [apply, record, laid, overlay_ofList, ofList_append]

theorem applyAll_ofList (writes : List (String × Condition)) :
    ∀ steps : List Step, applyAll (ofList writes) steps = ofList (recordAll writes steps)
  | [] => by rw [applyAll, recordAll]
  | step :: rest => by
    rw [applyAll, recordAll, apply_ofList writes step]
    exact applyAll_ofList (record writes step) rest

end

/-! What a registry knows -/

theorem knows_ofList (writes : List (String × Condition)) : Knows (ofList writes) writes where
  latest := by
    intro name condition
    rw [Registry.condition_eq_ok_iff, find?_ofList, lookup_reverse_eq_some_iff]
  undefined := by
    intro name error
    rw [Registry.condition_eq_error_iff, names_ofList, List.mem_eraseDups]
  names := names_ofList writes
  size := by
    rw [← names_ofList, names, List.length_map]
    rfl
  contains := by
    intro name
    rw [contains_iff, names_ofList, List.mem_eraseDups]
  isEmpty := isEmpty_ofList_iff

/-- Whatever steps put a registry together, it knows what they wrote since it last started anew.
Laying one registry over another is inserting its entries one by one in their order, and it is
associative, with the empty registry as its identity on both sides. -/
theorem registry_knows_writes (steps : List Step) (first second third : Registry) :
    Knows (applyAll ∅ steps) (recordAll [] steps) ∧
      first.overlay second =
        second.entries.foldl (fun registry entry => registry.insert entry.1 entry.2) first ∧
      (first.overlay second).overlay third = first.overlay (second.overlay third) ∧
      first.overlay ∅ = first ∧ (∅ : Registry).overlay first = first := by
  have built : applyAll ∅ steps = ofList (recordAll [] steps) := applyAll_ofList [] steps
  exact ⟨built ▸ knows_ofList (recordAll [] steps), rfl, overlay_assoc first second third,
    overlay_empty first, empty_overlay first⟩

/-- A name that is written again keeps its place, also by a registry that is laid over. -/
example :
    let isNull : Condition := fun column _ => .ok (.isNull column false)
    let inner : List Step := [.insert "a" isNull, .insert "eq" isNull]
    (applyAll ∅ [.builtin, .new, .insert "eq" isNull, .insert "b" isNull, .overlay inner]).names =
      ["eq", "b", "a"] := by
  rfl

end QueryGate.RegistryHistory
