import Mathlib.Data.List.Induction
import QueryGate.NameSet
import QueryGate.Table

/-! What tables hold after writes. A table is known by the order of its names and by what it answers
for each of them; both are read off the list of writes, and laying tables over each other is a law
about such lists. -/
namespace QueryGate.Table

universe u

variable {α : Type u} {table other : Table α} {entries writes : List (String × α)}
  {name : String} {value : α}

/-- The value is the last one that the writes put under the name. -/
def LastWrites (writes : List (String × α)) (name : String) (value : α) : Prop :=
  ∃ before after, writes = before ++ (name, value) :: after ∧ name ∉ after.map Prod.fst

theorem lookup_eq_none_iff : lookup name entries = none ↔ name ∉ entries.map Prod.fst := by
  rw [← isSome_lookup_iff, Option.not_isSome_iff_eq_none]

/-! Lists of writes -/

theorem insertAll_append (table : Table α) (first second : List (String × α)) :
    table.insertAll (first ++ second) = (table.insertAll first).insertAll second :=
  List.foldl_append

theorem ofList_append (first second : List (String × α)) :
    ofList (first ++ second) = (ofList first).insertAll second := insertAll_append ..

theorem lookup_append (first second : List (String × α)) :
    lookup name (first ++ second) = (lookup name first).or (lookup name second) := by
  induction first with
  | nil => rfl
  | cons entry rest later =>
    rw [List.cons_append, lookup, lookup]
    by_cases here : entry.1 = name
    · simp [here]
    · simp [here, later]

/-- What was written last is found first from the back. -/
theorem find?_insertAll (table : Table α) (writes : List (String × α)) (name : String) :
    (table.insertAll writes).find? name = (lookup name writes.reverse).or (table.find? name) := by
  induction writes generalizing table with
  | nil => rfl
  | cons entry rest later =>
    have first : (table.insertAll (entry :: rest)) =
        (table.insert entry.1 entry.2).insertAll rest := rfl
    rw [first, later, find?_insert, List.reverse_cons, lookup_append, Option.or_assoc]
    by_cases here : entry.1 = name
    · simp [lookup, here]
    · simp [lookup, here]

theorem lookup_reverse_eq_some_iff :
    lookup name writes.reverse = some value ↔ LastWrites writes name value := by
  constructor
  · intro found
    induction writes using List.reverseRecOn with
    | nil => cases found
    | append_singleton earlier last ih =>
      rw [List.reverse_concat, lookup] at found
      by_cases here : last.1 = name
      · rw [if_pos here] at found
        obtain ⟨key, written⟩ := last
        cases found
        cases here
        exact ⟨earlier, [], rfl, List.not_mem_nil⟩
      · rw [if_neg here] at found
        obtain ⟨before, after, rfl, unwritten⟩ := ih found
        refine ⟨before, after ++ [last], by simp, ?_⟩
        rw [List.map_append, List.mem_append, not_or]
        exact ⟨unwritten, by simpa using Ne.symm here⟩
  · rintro ⟨before, after, rfl, unwritten⟩
    have skipped : lookup name after.reverse = none := by
      rw [lookup_eq_none_iff, List.map_reverse, List.mem_reverse]
      exact unwritten
    rw [List.reverse_append, List.reverse_cons, List.append_assoc, lookup_append, skipped]
    simp [lookup]

/-- Names that are written once are looked up from either end alike. -/
theorem lookup_reverse (distinct : (entries.map Prod.fst).Nodup) (name : String) :
    lookup name entries.reverse = lookup name entries := by
  induction entries with
  | nil => rfl
  | cons entry rest later =>
    rw [List.map_cons, List.nodup_cons] at distinct
    rw [List.reverse_cons, lookup_append, later distinct.2]
    by_cases here : entry.1 = name
    · have unwritten : lookup name rest = none := lookup_eq_none_iff.mpr (here ▸ distinct.1)
      simp [lookup, here, unwritten]
    · simp [lookup, here]

theorem find?_ofList (writes : List (String × α)) (name : String) :
    (ofList writes).find? name = lookup name writes.reverse := by
  rw [ofList, find?_insertAll]
  exact Option.or_none

/-- A table laid over another answers first. -/
theorem find?_overlay (table other : Table α) (name : String) :
    (table.overlay other).find? name = (other.find? name).or (table.find? name) := by
  rw [overlay, find?_insertAll, lookup_reverse other.distinct]
  rfl

/-! The order of the names -/

/-- The names of a table as a set that remembers their order. -/
def nameSet (table : Table α) : NameSet := ⟨table.names, table.distinct⟩

theorem keys_assign (name : String) (value : α) (entries : List (String × α)) :
    (assign name value entries).map Prod.fst =
      if name ∈ entries.map Prod.fst then entries.map Prod.fst
      else entries.map Prod.fst ++ [name] := by
  induction entries with
  | nil => rfl
  | cons entry rest later =>
    obtain ⟨key, old⟩ := entry
    rw [assign]
    by_cases here : key = name
    · simp [here]
    · rw [if_neg here, List.map_cons, later]
      by_cases present : name ∈ rest.map Prod.fst
      · simp [present]
      · simp [present, Ne.symm here]

theorem nameSet_insert (table : Table α) (name : String) (value : α) :
    (table.insert name value).nameSet = table.nameSet.insert name := by
  apply NameSet.eq_of_names
  rw [NameSet.names_insert]
  exact keys_assign name value table.entries

theorem nameSet_insertAll (table : Table α) (writes : List (String × α)) :
    (table.insertAll writes).nameSet = table.nameSet.insertAll (writes.map Prod.fst) := by
  induction writes generalizing table with
  | nil => rfl
  | cons entry rest later =>
    have first : (table.insertAll (entry :: rest)) =
        (table.insert entry.1 entry.2).insertAll rest := rfl
    rw [first, later, nameSet_insert]
    rfl

/-- The names of a table stand in the order in which they were first written. -/
theorem names_ofList (writes : List (String × α)) :
    (ofList writes).names = (writes.map Prod.fst).eraseDups := by
  rw [← NameSet.names_ofList]
  exact congrArg NameSet.names (nameSet_insertAll empty writes)

theorem isEmpty_ofList_iff : (ofList writes).isEmpty = true ↔ writes = [] := by
  constructor
  · intro empty
    cases writes with
    | nil => rfl
    | cons entry rest =>
      have listed := names_ofList (entry :: rest)
      rw [names, List.isEmpty_iff.mp empty, List.map_cons, List.eraseDups_cons] at listed
      cases listed
  · rintro rfl
    rfl

/-! Tables laid over tables -/

theorem eq_of_entries (same : table.entries = other.entries) : table = other := by
  obtain ⟨entries, distinct⟩ := table
  obtain ⟨others, distinctToo⟩ := other
  cases same
  rfl

/-- Writes under distinct names are kept as they are. -/
theorem entries_ofList (distinct : (writes.map Prod.fst).Nodup) :
    (ofList writes).entries = writes := by
  induction writes using List.reverseRecOn with
  | nil => rfl
  | append_singleton earlier last ih =>
    rw [List.map_append, List.nodup_append] at distinct
    obtain ⟨distinctToo, -, apart⟩ := distinct
    have absent : last.1 ∉ earlier.map Prod.fst := by
      intro member
      exact apart last.1 member last.1 List.mem_cons_self rfl
    have kept := ih distinctToo
    have added : (ofList (earlier ++ [last])).entries =
        assign last.1 last.2 (ofList earlier).entries := by
      rw [ofList_append]
      rfl
    rw [added, kept, assign_of_not_mem absent]

/-- Entry lists under the same distinct names that answer alike are the same. -/
private theorem entries_ext {first second : List (String × α)}
    (keys : first.map Prod.fst = second.map Prod.fst) (distinct : (first.map Prod.fst).Nodup)
    (same : ∀ name, lookup name first = lookup name second) : first = second := by
  induction first generalizing second with
  | nil => exact (List.map_eq_nil_iff.mp keys.symm).symm
  | cons entry rest later =>
    obtain ⟨key, value⟩ := entry
    obtain ⟨other, others, rfl⟩ : ∃ other others, second = other :: others :=
      List.exists_cons_of_ne_nil fun empty => by simp [empty] at keys
    obtain ⟨otherKey, otherValue⟩ := other
    obtain ⟨rfl, keysToo⟩ := List.cons.inj keys
    obtain ⟨absent, distinctToo⟩ := List.nodup_cons.mp distinct
    have here := same key
    simp only [lookup, ↓reduceIte, Option.some.injEq] at here
    have rest_same : rest = others := by
      refine later keysToo distinctToo fun name => ?_
      by_cases known : key = name
      · subst known
        rw [lookup_eq_none_iff.mpr absent, lookup_eq_none_iff.mpr (keysToo ▸ absent)]
      · have there := same name
        simpa only [lookup, if_neg known] using there
    rw [here, rest_same]

/-- A table is known by the order of its names and by its answers. -/
theorem ext_of_find? (names : table.nameSet = other.nameSet)
    (same : ∀ name, table.find? name = other.find? name) : table = other :=
  eq_of_entries (entries_ext (congrArg NameSet.names names) table.distinct same)

/-- A name that is inserted into a set beforehand is inserted last. -/
private theorem insertAll_names_insert (set added : NameSet) (name : String) :
    set.insertAll (added.insert name).names = (set.insertAll added.names).insert name := by
  rw [NameSet.insert]
  by_cases present : name ∈ added.names
  · have there : name ∈ (set.insertAll added.names).names :=
      NameSet.mem_insertAll.mpr (.inr present)
    rw [dif_pos present, NameSet.insert, dif_pos there]
  · rw [dif_neg present, NameSet.insertAll, List.foldl_append]
    rfl

/-- What is written into the upper table may as well be written afterwards. -/
theorem overlay_insert (table other : Table α) (name : String) (value : α) :
    table.overlay (other.insert name value) = (table.overlay other).insert name value := by
  apply ext_of_find?
  · rw [nameSet_insert, overlay, overlay, nameSet_insertAll, nameSet_insertAll]
    have written : (other.insert name value).entries.map Prod.fst =
        (other.nameSet.insert name).names :=
      congrArg NameSet.names (nameSet_insert other name value)
    rw [written]
    exact insertAll_names_insert table.nameSet other.nameSet name
  · intro wanted
    rw [find?_overlay, find?_insert, find?_insert, find?_overlay]
    by_cases here : name = wanted
    · simp [here]
    · simp [here]

theorem overlay_insertAll (table other : Table α) (writes : List (String × α)) :
    table.overlay (other.insertAll writes) = (table.overlay other).insertAll writes := by
  induction writes using List.reverseRecOn with
  | nil => rfl
  | append_singleton earlier last ih =>
    rw [insertAll_append, insertAll_append, ← ih]
    exact overlay_insert table (other.insertAll earlier) last.1 last.2

/-- Laying the table of writes over another is writing them into it. -/
theorem overlay_ofList (table : Table α) (writes : List (String × α)) :
    table.overlay (ofList writes) = table.insertAll writes := overlay_insertAll table empty writes

theorem overlay_assoc (first second third : Table α) :
    (first.overlay second).overlay third = first.overlay (second.overlay third) :=
  (overlay_insertAll first second third.entries).symm

theorem overlay_empty (table : Table α) : table.overlay ∅ = table := rfl

theorem empty_overlay (table : Table α) : (∅ : Table α).overlay table = table :=
  eq_of_entries (entries_ofList table.distinct)

end QueryGate.Table
