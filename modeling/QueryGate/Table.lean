/-! Tables from names to values that remember the order in which the names first came. Writing
under a name that is present replaces its value and keeps its place. -/
namespace QueryGate

universe u

/-- Entries under distinct names, in the order of first insertion. -/
structure Table (α : Type u) where
  entries : List (String × α)
  distinct : (entries.map Prod.fst).Nodup
  deriving DecidableEq

namespace Table

variable {α : Type u}

/-- Puts a value under a name of an entry list: in place if the name is there, else at the end. -/
def assign (name : String) (value : α) : List (String × α) → List (String × α)
  | [] => [(name, value)]
  | (key, old) :: rest =>
    if key = name then (key, value) :: rest else (key, old) :: assign name value rest

/-- The value under a name of an entry list. -/
def lookup (name : String) : List (String × α) → Option α
  | [] => none
  | (key, value) :: rest => if key = name then some value else lookup name rest

theorem mem_keys_assign {name : String} {value : α} {entries : List (String × α)}
    {other : String} :
    other ∈ (assign name value entries).map Prod.fst ↔
      other ∈ entries.map Prod.fst ∨ other = name := by
  induction entries with
  | nil => simp [assign]
  | cons entry rest later =>
    obtain ⟨key, old⟩ := entry
    rw [assign]
    split
    · rename_i same
      subst same
      simp only [List.map_cons, List.mem_cons]
      constructor
      · exact .inl
      · rintro (member | rfl)
        · exact member
        · exact .inl rfl
    · simp only [List.map_cons, List.mem_cons, later]
      exact or_assoc.symm

theorem distinct_assign {name : String} {value : α} {entries : List (String × α)}
    (distinct : (entries.map Prod.fst).Nodup) :
    ((assign name value entries).map Prod.fst).Nodup := by
  induction entries with
  | nil => simp [assign]
  | cons entry rest later =>
    obtain ⟨key, old⟩ := entry
    rw [List.map_cons, List.nodup_cons] at distinct
    rw [assign]
    split
    · rw [List.map_cons, List.nodup_cons]
      exact distinct
    · rename_i different
      rw [List.map_cons, List.nodup_cons]
      refine ⟨fun member => ?_, later distinct.2⟩
      rcases mem_keys_assign.mp member with member | same
      · exact distinct.1 member
      · exact different same

def empty : Table α := ⟨[], List.nodup_nil⟩

instance : EmptyCollection (Table α) := ⟨empty⟩

instance : Inhabited (Table α) := ⟨empty⟩

def insert (table : Table α) (name : String) (value : α) : Table α :=
  ⟨assign name value table.entries, distinct_assign table.distinct⟩

/-- Writes entries one after the other. -/
def insertAll (table : Table α) (entries : List (String × α)) : Table α :=
  entries.foldl (fun table entry => table.insert entry.1 entry.2) table

/-- The table of an entry list: a name that comes again keeps its first place and its last
value. -/
def ofList (entries : List (String × α)) : Table α := empty.insertAll entries

/-- Writes the entries of a second table over the first. -/
def overlay (table other : Table α) : Table α := table.insertAll other.entries

def find? (table : Table α) (name : String) : Option α := lookup name table.entries

def contains (table : Table α) (name : String) : Bool := (table.find? name).isSome

def names (table : Table α) : List String := table.entries.map Prod.fst

def size (table : Table α) : Nat := table.entries.length

def isEmpty (table : Table α) : Bool := table.entries.isEmpty

theorem lookup_assign {name : String} {value : α} {entries : List (String × α)}
    {other : String} :
    lookup other (assign name value entries) =
      if name = other then some value else lookup other entries := by
  induction entries with
  | nil => rfl
  | cons entry rest later =>
    obtain ⟨key, old⟩ := entry
    rw [assign]
    by_cases here : key = name
    · subst here
      by_cases same : key = other <;> simp [lookup, same]
    · by_cases same : key = other
      · subst same
        simp [here, lookup, Ne.symm here]
      · simp [here, lookup, same, later]

/-- A new name comes last. -/
theorem assign_of_not_mem {name : String} {value : α} {entries : List (String × α)}
    (absent : name ∉ entries.map Prod.fst) :
    assign name value entries = entries ++ [(name, value)] := by
  induction entries with
  | nil => rfl
  | cons entry rest later =>
    rw [List.map_cons, List.mem_cons, not_or] at absent
    rw [assign, if_neg (Ne.symm absent.1), later absent.2, List.cons_append]

theorem isSome_lookup_iff {name : String} {entries : List (String × α)} :
    (lookup name entries).isSome = true ↔ name ∈ entries.map Prod.fst := by
  induction entries with
  | nil => simp [lookup]
  | cons entry rest later =>
    rw [lookup, List.map_cons, List.mem_cons, ← later]
    by_cases here : entry.1 = name
    · simp [here]
    · simp [here, Ne.symm here]

theorem mem_of_lookup {name : String} {value : α} {entries : List (String × α)}
    (found : lookup name entries = some value) : (name, value) ∈ entries := by
  induction entries with
  | nil => cases found
  | cons entry rest later =>
    rw [lookup] at found
    split at found
    · rename_i here
      cases found
      exact List.mem_cons.mpr (.inl (Prod.ext here.symm rfl))
    · exact List.mem_cons_of_mem _ (later found)

theorem contains_iff {table : Table α} {name : String} :
    table.contains name = true ↔ name ∈ table.names := isSome_lookup_iff

/-- A table answers with the value last written under a name. -/
theorem find?_insert {table : Table α} {name : String} {value : α} {other : String} :
    (table.insert name value).find? other =
      if name = other then some value else table.find? other :=
  lookup_assign

end Table

end QueryGate
