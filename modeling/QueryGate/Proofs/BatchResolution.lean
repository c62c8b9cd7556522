import QueryGate.Proofs.Outcomes
import QueryGate.Proofs.TableWrites
import QueryGate.Resolver

/-! Batches of names looked up in a table. A batch gets a column for each of its names, the one
written last, or none at all: then the first name that was never written is to blame. -/
namespace QueryGate.BatchResolution
open Table Outcomes

variable {table : Table String} {writes : List (String × String)} {names : List String}
  {name column : String} {error : Error}

/-- The entry is the first name of the batch that was never written. -/
def FirstUnwritten (writes : List (String × String)) (names : List String) (entry : String) :
    Prop :=
  ∃ before after, names = before ++ entry :: after ∧
    (∀ name ∈ before, name ∈ writes.map Prod.fst) ∧ entry ∉ writes.map Prod.fst

/-- What comes of a batch of names against a table that was written to. -/
structure Resolves (writes : List (String × String)) (names : List String)
    (result : Except Error (List String)) : Prop where
  total : (∃ columns, result = .ok columns) ↔ ∀ name ∈ names, name ∈ writes.map Prod.fst
  length : ∀ columns, result = .ok columns → columns.length = names.length
  /-- Name by name, the column is the one that was written last. -/
  columns : ∀ columns, result = .ok columns ↔ List.Forall₂ (LastWrites writes) names columns
  refused : ∀ error, result = .error error ↔
    ∃ entry, FirstUnwritten writes names entry ∧ error = .unresolved entry .unknownName

/-! One name -/

theorem column_eq_ok_iff : Resolver.column table name = .ok column ↔
    table.find? name = some column := by
  rw [Resolver.column]
  cases table.find? name <;> simp

theorem column_eq_error_iff : Resolver.column table name = .error error ↔
    name ∉ table.names ∧ error = .unresolved name .unknownName := by
  rw [← contains_iff, contains, Resolver.column]
  cases table.find? name <;> simp [eq_comm]

theorem column_ofList_eq_ok_iff :
    Resolver.column (ofList writes) name = .ok column ↔ LastWrites writes name column := by
  rw [column_eq_ok_iff, find?_ofList, lookup_reverse_eq_some_iff]

theorem column_ofList_eq_error_iff : Resolver.column (ofList writes) name = .error error ↔
    name ∉ writes.map Prod.fst ∧ error = .unresolved name .unknownName := by
  rw [column_eq_error_iff, names_ofList, List.mem_eraseDups]

/-! A batch -/

theorem ofTable_eq_ok_iff {columns : List String} :
    Resolver.ofTable (ofList writes) names = .ok columns ↔
      List.Forall₂ (LastWrites writes) names columns := by
  simp only [Resolver.ofTable, mapM_eq_ok_iff, column_ofList_eq_ok_iff]

theorem ofTable_eq_error_iff :
    Resolver.ofTable (ofList writes) names = .error error ↔
      ∃ entry, FirstUnwritten writes names entry ∧ error = .unresolved entry .unknownName := by
  have passes_iff (name : String) :
      (∀ other, ¬ Resolver.column (ofList writes) name = .error other) ↔
        name ∈ writes.map Prod.fst := by
    simp [column_ofList_eq_error_iff]
  rw [Resolver.ofTable, mapM_decided (Resolver.column (ofList writes)) names error]
  constructor
  · intro found
    obtain ⟨before, entry, after, rfl, passed, failed⟩ := found.split
    obtain ⟨unwritten, blamed⟩ := column_ofList_eq_error_iff.mp failed
    have written := fun name member => (passes_iff name).mp (passed name member)
    exact ⟨entry, ⟨before, after, rfl, written, unwritten⟩, blamed⟩
  · rintro ⟨entry, ⟨before, after, rfl, written, unwritten⟩, blamed⟩
    have passed := fun name member => (passes_iff name).mpr (written name member)
    exact .of_split passed (column_ofList_eq_error_iff.mpr ⟨unwritten, blamed⟩)

/-- A batch that is not refused at some name has a column for every name. -/
theorem exists_columns_iff :
    (∃ columns, Resolver.ofTable (ofList writes) names = .ok columns) ↔
      ∀ name ∈ names, name ∈ writes.map Prod.fst := by
  have refused_iff : (∃ error, Resolver.ofTable (ofList writes) names = .error error) ↔
      ∃ name ∈ names, name ∉ writes.map Prod.fst := by
    simp only [Resolver.ofTable, mapM_decided (Resolver.column (ofList writes)) names _,
      exists_firstFails_iff, column_ofList_eq_error_iff, exists_and_left, exists_eq, and_true]
  have found_iff := not_congr (exists_error_iff.symm.trans refused_iff)
  simpa only [not_forall, not_not, not_exists, not_and] using found_iff

theorem resolves_ofList (writes : List (String × String)) (names : List String) :
    Resolves writes names (Resolver.ofTable (ofList writes) names) where
  total := exists_columns_iff
  length := fun _ resolved => (ofTable_eq_ok_iff.mp resolved).length_eq.symm
  columns := fun _ => ofTable_eq_ok_iff
  refused := fun _ => ofTable_eq_error_iff

/-- However a table was written, a batch of names gets the columns that were written last under
them, as many as there are names, exactly when every name was written; otherwise it is refused for
the first name that was not. A batch in two parts gets the columns of both, or the error of the
first part that has one. -/
theorem batch_gets_columns_or_names_first_unwritten (entries inserts : List (String × String))
    (names more : List String) :
    let table := inserts.foldl (fun table entry => table.insert entry.1 entry.2) (ofList entries)
    Resolves (entries ++ inserts) names (Resolver.ofTable table names) ∧
      Resolver.ofTable table (names ++ more) = do
        let columns ← Resolver.ofTable table names
        let others ← Resolver.ofTable table more
        return columns ++ others := by
  intro table
  have written : table = ofList (entries ++ inserts) := (ofList_append entries inserts).symm
  refine ⟨written ▸ resolves_ofList (entries ++ inserts) names, ?_⟩
  exact List.mapM_append

/-- A name that was written twice has its last column, wherever it stands in the batch. -/
example :
    let table := (ofList [("a", "x"), ("b", "y"), ("a", "z")]).insert "b" "w"
    Resolver.ofTable table ["b", "a", "b"] = .ok ["w", "z", "w"] := by
  rfl

end QueryGate.BatchResolution
