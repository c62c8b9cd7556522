import QueryGate.NameSet
import QueryGate.Table

/-! Which operations filters may use, field by field. -/
namespace QueryGate

/-- The allowed operations of each field that may be filtered at all. -/
structure AllowedFilters where
  fields : Table NameSet
  deriving DecidableEq

namespace AllowedFilters

def empty : AllowedFilters := ⟨∅⟩

instance : EmptyCollection AllowedFilters := ⟨empty⟩

/-- Allows more operations on a field; an empty list still makes the field known. -/
def allow (allowed : AllowedFilters) (field : String) (operations : List String) :
    AllowedFilters :=
  let before := (allowed.fields.find? field).getD ∅
  ⟨allowed.fields.insert field (before.insertAll operations)⟩

def ofList (entries : List (String × List String)) : AllowedFilters :=
  entries.foldl (fun allowed entry => allowed.allow entry.1 entry.2) ∅

/-- The operations allowed on a field, if it may be filtered. -/
def operations? (allowed : AllowedFilters) (field : String) : Option NameSet :=
  allowed.fields.find? field

/-- Every allowed pair of a field and an operation, in order. -/
def pairs (allowed : AllowedFilters) : List (String × String) :=
  allowed.fields.entries.flatMap fun entry => entry.2.names.map fun operation =>
    (entry.1, operation)

/-- The operation may be applied to the field. -/
def Permits (allowed : AllowedFilters) (field operation : String) : Prop :=
  ∃ operations, allowed.operations? field = some operations ∧ operation ∈ operations

theorem operations?_allow (allowed : AllowedFilters) (field : String) (operations : List String)
    (other : String) :
    (allowed.allow field operations).operations? other =
      if field = other then some (((allowed.operations? field).getD ∅).insertAll operations)
      else allowed.operations? other := Table.find?_insert

theorem permits_allow {allowed : AllowedFilters} {field other : String}
    {operations : List String} {operation : String} :
    (allowed.allow field operations).Permits other operation ↔
      allowed.Permits other operation ∨ (field = other ∧ operation ∈ operations) := by
  rw [Permits, Permits, operations?_allow]
  by_cases same : field = other
  · subst same
    cases allowed.operations? field with
    | none => simp [NameSet.mem_insertAll, NameSet.not_mem_empty]
    | some before => simp [NameSet.mem_insertAll]
  · simp [same]

/-- Some entry of the list names the operation for the field. -/
theorem permits_ofList {entries : List (String × List String)} {field operation : String} :
    (ofList entries).Permits field operation ↔
      ∃ entry ∈ entries, entry.1 = field ∧ operation ∈ entry.2 := by
  have added (allowed : AllowedFilters) (entries : List (String × List String)) :
      (entries.foldl (fun allowed entry => allowed.allow entry.1 entry.2) allowed).Permits field
          operation ↔
        allowed.Permits field operation ∨
          ∃ entry ∈ entries, entry.1 = field ∧ operation ∈ entry.2 := by
    induction entries generalizing allowed with
    | nil => simp
    | cons entry rest later =>
      simp only [List.foldl_cons, later, permits_allow, List.mem_cons, exists_eq_or_imp, or_assoc]
  rw [ofList, added]
  refine or_iff_right ?_
  rintro ⟨operations, impossible, -⟩
  cases impossible

/-- Distinct fields get the sets of their operations, in the order of the list. -/
theorem entries_ofList {entries : List (String × List String)}
    (distinct : (entries.map Prod.fst).Nodup) :
    (ofList entries).fields.entries = entries.map fun entry => (entry.1, .ofList entry.2) := by
  have added (allowed : AllowedFilters) (entries : List (String × List String))
      (distinct : (allowed.fields.names ++ entries.map Prod.fst).Nodup) :
      (entries.foldl (fun allowed entry => allowed.allow entry.1 entry.2) allowed).fields.entries =
        allowed.fields.entries ++ entries.map fun entry => (entry.1, .ofList entry.2) := by
    induction entries generalizing allowed with
    | nil => simp
    | cons entry rest later =>
      rw [List.map_cons] at distinct
      have fresh : entry.1 ∉ allowed.fields.names := by
        intro member
        exact (List.nodup_append.mp distinct).2.2 entry.1 member entry.1 List.mem_cons_self rfl
      have unread : allowed.fields.find? entry.1 = none := by
        rw [← Option.not_isSome_iff_eq_none, Table.find?, Table.isSome_lookup_iff]
        exact fresh
      have allowing : (allowed.allow entry.1 entry.2).fields.entries =
          allowed.fields.entries ++ [(entry.1, .ofList entry.2)] := by
        rw [allow, unread]
        exact Table.assign_of_not_mem fresh
      have names : (allowed.allow entry.1 entry.2).fields.names =
          allowed.fields.names ++ [entry.1] := by
        rw [Table.names, allowing, List.map_append]
        rfl
      rw [List.foldl_cons, later _ (by rwa [names, List.append_assoc]), allowing,
        List.append_assoc]
      rfl
  rw [ofList, added ∅ entries distinct]
  rfl

end AllowedFilters

end QueryGate
