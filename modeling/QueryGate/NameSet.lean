/-! Sets of names that remember the order in which the names first came. -/
namespace QueryGate

/-- Distinct names, in the order of their first insertion. -/
structure NameSet where
  names : List String
  distinct : names.Nodup
  deriving DecidableEq

namespace NameSet

def empty : NameSet := ⟨[], List.nodup_nil⟩

instance : EmptyCollection NameSet := ⟨empty⟩

instance : Inhabited NameSet := ⟨empty⟩

instance : Membership String NameSet := ⟨fun set name => name ∈ set.names⟩

instance (name : String) (set : NameSet) : Decidable (name ∈ set) :=
  inferInstanceAs (Decidable (name ∈ set.names))

/-- A name that is already present keeps its place. -/
def insert (set : NameSet) (name : String) : NameSet :=
  if present : name ∈ set.names then set
  else ⟨set.names ++ [name], by
    refine List.nodup_append.mpr ⟨set.distinct, by simp, fun other member single last same => ?_⟩
    rw [List.mem_singleton.mp last] at same
    exact present (same ▸ member)⟩

/-- Inserts names one after the other. -/
def insertAll (set : NameSet) (names : List String) : NameSet := names.foldl insert set

/-- The names of a list, each once, at its first place. -/
def ofList (names : List String) : NameSet := empty.insertAll names

def contains (set : NameSet) (name : String) : Bool := name ∈ set

theorem mem_iff {set : NameSet} {name : String} : name ∈ set ↔ name ∈ set.names := .rfl

theorem not_mem_empty {name : String} : name ∉ (∅ : NameSet) := List.not_mem_nil

theorem contains_iff {set : NameSet} {name : String} :
    set.contains name = true ↔ name ∈ set := decide_eq_true_iff

theorem eq_of_names {set other : NameSet} (same : set.names = other.names) : set = other := by
  cases set
  cases other
  cases same
  rfl

theorem names_insert (set : NameSet) (name : String) :
    (set.insert name).names = if name ∈ set.names then set.names else set.names ++ [name] := by
  rw [insert]
  split <;> rfl

theorem mem_insert {set : NameSet} {name other : String} :
    other ∈ set.insert name ↔ other ∈ set ∨ other = name := by
  rw [mem_iff, mem_iff, insert]
  split
  · rename_i present
    exact ⟨.inl, fun member => member.elim id fun same => same ▸ present⟩
  · simp

theorem mem_insertAll {set : NameSet} {names : List String} {other : String} :
    other ∈ set.insertAll names ↔ other ∈ set ∨ other ∈ names := by
  induction names generalizing set with
  | nil => simp [insertAll]
  | cons name rest later =>
    rw [insertAll, List.foldl_cons, ← insertAll, later, mem_insert, List.mem_cons]
    exact or_assoc

theorem mem_ofList {names : List String} {other : String} :
    other ∈ ofList names ↔ other ∈ names := by
  rw [ofList, mem_insertAll, mem_iff]
  simp [empty]

/-- Names that are new to a set come behind it, each once, at its first place. -/
theorem names_insertAll (set : NameSet) (names : List String) :
    (set.insertAll names).names =
      set.names ++ (names.filter fun name => name ∉ set.names).eraseDups := by
  induction names generalizing set with
  | nil => simp [insertAll]
  | cons name rest later =>
    rw [insertAll, List.foldl_cons, ← insertAll, later, insert]
    split
    · rename_i present
      simp [present]
    · rename_i absent
      have kept : (rest.filter fun other => other ∉ set.names ++ [name]) =
          (rest.filter fun other => other ∉ set.names).filter fun other => !other == name := by
        rw [List.filter_filter]
        refine List.filter_congr fun other _ => ?_
        by_cases same : other = name <;> simp [same]
      rw [kept, List.filter_cons_of_pos (by simpa using absent), List.eraseDups_cons,
        List.append_assoc, List.singleton_append]

theorem names_ofList (names : List String) : (ofList names).names = names.eraseDups := by
  have all : (names.filter fun name => name ∉ empty.names) = names :=
    List.filter_eq_self.mpr fun name _ => by simp [empty]
  rw [ofList, names_insertAll, all]
  rfl

/-- What is looked for in a list is found at the same name in its set. -/
theorem find?_names_ofList (wanted : String → Bool) (names : List String) :
    (ofList names).names.find? wanted = names.find? wanted := by
  have inserted (set : NameSet) (names : List String) :
      (set.insertAll names).names.find? wanted =
        (set.names.find? wanted).or (names.find? wanted) := by
    induction names generalizing set with
    | nil => simp [insertAll]
    | cons name rest later =>
      rw [insertAll, List.foldl_cons, ← insertAll, later, insert, List.find?_cons]
      split
      · rename_i present
        cases asked : wanted name with
        | true =>
          have found : (set.names.find? wanted).isSome = true :=
            List.find?_isSome.mpr ⟨name, present, asked⟩
          rw [Option.or_of_isSome found, Option.or_of_isSome found]
        | false => rfl
      · rw [List.find?_append, Option.or_assoc, List.find?_singleton]
        cases wanted name <;> rfl
  rw [ofList, inserted]
  rfl

end NameSet

end QueryGate
