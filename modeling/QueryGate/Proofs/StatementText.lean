import QueryGate.Proofs.StatementProofs

/-! The text of a statement around its conditions. Joined fragments print their texts one after the
other, each counting its placeholders on from those before; so where nothing in front of the WHERE
clause holds a value, its placeholders are counted from one. -/
namespace QueryGate.Fragment

/-- The texts of fragments in a row, the first placeholder of all of them at `position`. -/
def textsFrom (dialect : Dialect) (position : Nat) : List Fragment → List String
  | [] => []
  | fragment :: rest =>
    textFrom dialect position fragment.chunks
      :: textsFrom dialect (position + fragment.paramCount) rest

@[simp] theorem length_textsFrom (dialect : Dialect) (position : Nat) (fragments : List Fragment) :
    (textsFrom dialect position fragments).length = fragments.length := by
  induction fragments generalizing position with
  | nil => rfl
  | cons fragment rest later => rw [textsFrom, List.length_cons, later, List.length_cons]

theorem textFrom_intercalate (dialect : Dialect) (position : Nat) (separator : String)
    (fragments : List Fragment) :
    textFrom dialect position ([Chunk.raw separator].intercalate (fragments.map chunks)) =
      separator.intercalate (textsFrom dialect position fragments) := by
  induction fragments generalizing position with
  | nil => rfl
  | cons fragment rest later =>
    cases rest with
    | nil => simp [textsFrom]
    | cons second others =>
      have joined := later (position + fragment.paramCount)
      rw [List.map_cons] at joined
      rw [List.map_cons, List.map_cons, List.intercalate_cons_cons, textFrom_append,
        textFrom_append, textsFrom, textsFrom, String.intercalate_cons_cons, ← textsFrom, ← joined]
      simp [textFrom, paramsOf_append, paramsOf, paramCount, params]

theorem isEmpty_raw (text : String) : (raw text).isEmpty = decide (text = "") := by
  simp [isEmpty, Chunk.isBlank]

theorem placeholder_ne_empty (dialect : Dialect) (position : Nat) :
    dialect.placeholder position ≠ "" := by
  rw [Dialect.placeholder]
  split
  · simp
  · decide

/-- Fragments that print something do so at every place. -/
theorem textFrom_ne_empty {fragment : Fragment} (prints : fragment.isEmpty = false)
    (dialect : Dialect) (position : Nat) : textFrom dialect position fragment.chunks ≠ "" := by
  obtain ⟨chunks⟩ := fragment
  induction chunks with
  | nil => cases prints
  | cons chunk rest later =>
    cases chunk with
    | raw text =>
      by_cases blank : text = ""
      · subst blank
        have further : Fragment.isEmpty ⟨rest⟩ = false := by
          simpa [isEmpty, Chunk.isBlank] using prints
        simpa [textFrom] using later further
      · simp [textFrom, blank]
    | param value => simp [textFrom, placeholder_ne_empty]

/-- Fragments that print nothing do so at every place. -/
theorem textFrom_eq_empty {fragment : Fragment} (blank : fragment.isEmpty = true)
    (dialect : Dialect) (position : Nat) : textFrom dialect position fragment.chunks = "" := by
  obtain ⟨chunks⟩ := fragment
  induction chunks with
  | nil => rfl
  | cons chunk rest later =>
    simp only [isEmpty, List.all_cons, Bool.and_eq_true] at blank
    cases chunk with
    | raw text =>
      have nothing : text = "" := by simpa [Chunk.isBlank] using blank.1
      rw [textFrom, nothing, String.empty_append]
      exact later blank.2
    | param value => cases blank.1

theorem mem_textsFrom_ne_empty {fragments : List Fragment}
    (print : ∀ fragment ∈ fragments, fragment.isEmpty = false) (dialect : Dialect)
    (position : Nat) : ∀ text ∈ textsFrom dialect position fragments, text ≠ "" := by
  induction fragments generalizing position with
  | nil => simp [textsFrom]
  | cons fragment rest later =>
    rw [textsFrom, List.forall_mem_cons]
    exact ⟨textFrom_ne_empty (print fragment List.mem_cons_self) dialect position,
      later (fun other member => print other (List.mem_cons_of_mem _ member)) _⟩

/-- Without values it does not matter where the counting starts. -/
theorem textFrom_of_unvalued {chunks : List Chunk} (unvalued : paramsOf chunks = [])
    (dialect : Dialect) (position other : Nat) :
    textFrom dialect position chunks = textFrom dialect other chunks := by
  induction chunks with
  | nil => rfl
  | cons chunk rest later =>
    cases chunk with
    | raw text => rw [textFrom, textFrom, later unvalued]
    | param value => cases unvalued

end QueryGate.Fragment

namespace QueryGate.Select
open QueryGate.Expr Outcomes

variable {select : Select}

/-- The part of a statement in front of its WHERE clause. -/
def front (select : Select) (clauses : Clauses) : Fragment :=
  Fragment.raw select.opening ++ clauses.columns
    ++ clause " FROM " (Fragment.raw (select.source.getD "")) ++ clause " " clauses.joins

/-- The part of a statement behind its WHERE clause. -/
def back (select : Select) (clauses : Clauses) : Fragment :=
  groupClause select.groups ++ clause " HAVING " clauses.having
    ++ clause " ORDER BY " clauses.ordering ++ numberClause " LIMIT " select.limit
    ++ numberClause " OFFSET " select.offset

theorem chunks_assemble (select : Select) (clauses : Clauses) :
    (select.assemble clauses).chunks = (select.front clauses).chunks
      ++ (clause " WHERE " clauses.conditions).chunks ++ (select.back clauses).chunks := by
  simp [assemble, front, back]

theorem params_front (select : Select) (clauses : Clauses) :
    (select.front clauses).params = clauses.columns.params ++ clauses.joins.params := by
  simp [front, Fragment.params_append, params_clause]

theorem params_back (select : Select) (clauses : Clauses) :
    (select.back clauses).params = clauses.having.params ++ clauses.ordering.params := by
  simp [back, Fragment.params_append, params_clause, params_groupClause, params_numberClause]

theorem params_around_conditions (select : Select) (clauses : Clauses) :
    (select.assemble clauses).params = (select.front clauses).params
      ++ clauses.conditions.params ++ (select.back clauses).params := by
  simp [params_assemble, params_front, params_back]

/-- If only the conditions hold values, their placeholders are counted from one. -/
theorem text_assemble {clauses : Clauses} (front : (select.front clauses).params = [])
    (back : (select.back clauses).params = []) (dialect : Dialect) :
    (select.assemble clauses).text dialect = (select.front clauses).text dialect
      ++ (clause " WHERE " clauses.conditions).text dialect
      ++ (select.back clauses).text dialect := by
  -- Nothing in front counts, and what stands behind prints the same from any place.
  have unvalued : Fragment.paramsOf (select.front clauses).chunks = [] := front
  simp only [Fragment.text_eq_textFrom]
  rw [chunks_assemble, Fragment.textFrom_append, Fragment.textFrom_append, unvalued,
    Fragment.textFrom_of_unvalued back dialect _ 1]
  rfl

/-- Columns that render to nothing are the first fault of a statement. -/
theorem build_eq_missing {columns : Fragment}
    (rendered : renderJoined ", " select.columns = .ok columns) (blank : columns.isEmpty = true)
    (dialect : Dialect) : select.build dialect = .error .missingColumns := by
  have missing : select.render = .error .missingColumns := by
    simp only [render_eq, rendered, bind, Except.bind, blank]
    rfl
  rw [build, missing]
  rfl

end QueryGate.Select
