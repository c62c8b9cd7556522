import QueryGate.Proofs.StatementText

/-! Laws of fragments. Whatever way a fragment is rendered, by itself or as a part of another one,
it gives the same text and values, and only the numbers of its placeholders depend on what stands in
front of it. Joins write a separator between neighbours that print, and nothing else. -/
namespace QueryGate.FragmentLaws
open Fragment

/-! Rendering -/

/-- What a chunk prints: raw text as it is, a value as the placeholder at its position. -/
def piece (dialect : Dialect) (position : Nat) : Chunk → String
  | .raw text => text
  | .param _ => dialect.placeholder position

/-- The text of a fragment with its placeholders counted from `start`. Each value stands as many
positions behind the start as there are values in front of it. -/
def textAt (fragment : Fragment) (dialect : Dialect) (start : Nat) : String :=
  String.join (fragment.chunks.mapIdx fun index chunk =>
    piece dialect (start + (paramsOf (fragment.chunks.take index)).length) chunk)

/-- All ways of rendering a fragment in a dialect give the statement, or their part of it. -/
structure RendersAs (fragment : Fragment) (dialect : Dialect) (statement : Statement) : Prop where
  built : fragment.build dialect = statement
  moved : fragment.intoStatement dialect = statement
  text : fragment.text dialect = statement.text
  written : ∀ buffer, fragment.writeTo buffer dialect = buffer ++ statement.text
  params : fragment.params = statement.params
  count : fragment.paramCount = statement.params.length

theorem textFrom_eq_textAt (dialect : Dialect) (start : Nat) (fragment : Fragment) :
    textFrom dialect start fragment.chunks = textAt fragment dialect start := by
  obtain ⟨chunks⟩ := fragment
  induction chunks generalizing start with
  | nil => rfl
  | cons chunk rest later =>
    cases chunk with
    | raw text => simp [textFrom, later, textAt, List.mapIdx_cons, piece, paramsOf]
    | param value =>
      simp [textFrom, later, textAt, List.mapIdx_cons, piece, paramsOf, Nat.add_assoc,
        Nat.add_comm 1]

theorem text_eq_textAt (fragment : Fragment) (dialect : Dialect) :
    fragment.text dialect = textAt fragment dialect 1 := by
  rw [text_eq_textFrom, textFrom_eq_textAt]

theorem rendersAs_textAt (fragment : Fragment) (dialect : Dialect) :
    RendersAs fragment dialect ⟨textAt fragment dialect 1, fragment.params⟩ where
  built := by rw [build_eq_text_params, text_eq_textAt]
  moved := by rw [intoStatement_eq_text_params, text_eq_textAt]
  text := text_eq_textAt fragment dialect
  written := by
    intro buffer
    rw [writeTo, writeFrom_eq, textFrom_eq_textAt]
  params := rfl
  count := rfl

theorem textAt_append (first second : Fragment) (dialect : Dialect) (start : Nat) :
    textAt (first ++ second) dialect start =
      textAt first dialect start ++ textAt second dialect (start + first.paramCount) := by
  rw [← textFrom_eq_textAt, chunks_append, textFrom_append, textFrom_eq_textAt, textFrom_eq_textAt]
  rfl

/-- All ways of rendering a fragment agree in every dialect. Two fragments in a row print the text
of the first and then that of the second, whose placeholders are counted on from the values of the
first, and hold the values of both. Three in a row can be put together from either side, and a
fragment without chunks adds nothing at either end. -/
theorem renderers_agree_and_compose (first second third : Fragment) (dialect : Dialect) :
    RendersAs first dialect ⟨textAt first dialect 1, first.params⟩ ∧
      RendersAs (first ++ second) dialect
        ⟨first.text dialect ++ textAt second dialect (first.paramCount + 1),
          first.params ++ second.params⟩ ∧
      first ++ second ++ third = first ++ (second ++ third) ∧
      .empty ++ first = first ∧ first ++ .empty = first := by
  have both := rendersAs_textAt (first ++ second) dialect
  rw [textAt_append, params_append, ← text_eq_textAt, Nat.add_comm] at both
  exact ⟨rendersAs_textAt first dialect, both, append_assoc first second third,
    empty_append first, append_empty first⟩

/-- Blank chunks print nothing and move no placeholder. -/
example :
    (Fragment.mk [.raw "", .raw "a = ", .param .null] ++ ⟨[.raw "", .param (.integer 1)]⟩).build
      .mysql = ⟨"a = ??", [.null, .integer 1]⟩ := by
  rfl

/-! Joins -/

/-- The fragment is the join of others: their texts, without those that are empty, with a separator
between neighbours, and their values in order. It prints something if one of them does. -/
structure Joins (separator : String) (fragments : List Fragment) (joined : Fragment) : Prop where
  /-- Where placeholders have numbers, each text counts its own on from those before it. -/
  text : ∀ dialect, joined.text dialect =
    separator.intercalate ((textsFrom dialect 1 fragments).filter (· ≠ ""))
  plain : ∀ dialect, dialect.numbered = false → joined.text dialect =
    separator.intercalate ((fragments.map fun fragment => fragment.text dialect).filter (· ≠ ""))
  params : joined.params = fragments.flatMap Fragment.params
  blank : joined.isEmpty = true ↔ ∀ fragment ∈ fragments, fragment.isEmpty = true

/-- Fragments that print nothing hold no values, so leaving them out moves no placeholder. -/
theorem textsFrom_printing (dialect : Dialect) (position : Nat) (fragments : List Fragment) :
    textsFrom dialect position (fragments.filter fun fragment => !fragment.isEmpty) =
      (textsFrom dialect position fragments).filter (· ≠ "") := by
  induction fragments generalizing position with
  | nil => rfl
  | cons fragment rest later =>
    rw [textsFrom]
    cases blank : fragment.isEmpty with
    | true =>
      have unvalued : fragment.paramCount = 0 :=
        congrArg List.length (params_eq_nil_of_isEmpty blank)
      rw [List.filter_cons_of_neg (by simp [blank]), later, unvalued,
        List.filter_cons_of_neg (by simp [textFrom_eq_empty blank])]
      rfl
    | false =>
      rw [List.filter_cons_of_pos (by simp [blank]), textsFrom, later,
        List.filter_cons_of_pos (by simp [textFrom_ne_empty blank])]

theorem textFrom_of_plain {dialect : Dialect} (plain : dialect.numbered = false)
    (position other : Nat) (chunks : List Chunk) :
    textFrom dialect position chunks = textFrom dialect other chunks := by
  induction chunks generalizing position other with
  | nil => rfl
  | cons chunk rest later =>
    cases chunk with
    | raw text => rw [textFrom, textFrom, later position other]
    | param value =>
      rw [textFrom, textFrom, later (position + 1) (other + 1), Dialect.placeholder,
        Dialect.placeholder, plain]
      rfl

theorem textsFrom_of_plain {dialect : Dialect} (plain : dialect.numbered = false)
    (position : Nat) (fragments : List Fragment) :
    textsFrom dialect position fragments =
      fragments.map fun fragment => fragment.text dialect := by
  induction fragments generalizing position with
  | nil => rfl
  | cons fragment rest later =>
    rw [textsFrom, later, List.map_cons, text_eq_textFrom, textFrom_of_plain plain position 1]

theorem joins_join (separator : String) (fragments : List Fragment) :
    Joins separator fragments (join separator fragments) := by
  have texts (dialect : Dialect) : (join separator fragments).text dialect =
      separator.intercalate ((textsFrom dialect 1 fragments).filter (· ≠ "")) := by
    rw [text_eq_textFrom, chunks_join, textFrom_intercalate, textsFrom_printing]
  exact {
    text := texts
    plain := fun dialect plain => by rw [texts, textsFrom_of_plain plain]
    params := params_join separator fragments
    blank := by rw [isEmpty_join, List.all_eq_true] }

/-- A join is the separated list of the texts that are not empty, with all values in order, and is
empty when all its members are. Joining lists first and then their joins, with the same separator,
gives the fragment that joining all their members does. -/
theorem joins_separate_and_nest (separator : String) (fragments : List Fragment)
    (lists : List (List Fragment)) :
    Joins separator fragments (join separator fragments) ∧
      join separator (lists.map (join separator)) = join separator lists.flatten :=
  ⟨joins_join separator fragments, join_flatten separator lists⟩

end QueryGate.FragmentLaws
