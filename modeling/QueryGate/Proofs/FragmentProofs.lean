import QueryGate.Fragment.Template

/-! The values and the text of composed fragments. Joining, wrapping and leaving out what prints
nothing never lose, repeat or reorder a value, and no text depends on what the values are. -/
namespace QueryGate.Fragment

@[simp] theorem chunks_raw (text : String) : (raw text).chunks = [.raw text] := rfl

@[simp] theorem chunks_param (value : Value) : (param value).chunks = [.param value] := rfl

@[simp] theorem chunks_parens (fragment : Fragment) :
    fragment.parens.chunks = .raw "(" :: fragment.chunks ++ [.raw ")"] := by
  simp [parens, push]

theorem eq_of_chunks {first second : Fragment} (same : first.chunks = second.chunks) :
    first = second := congrArg Fragment.mk same

@[simp] theorem chunks_empty : empty.chunks = [] := rfl

@[simp] theorem empty_append (fragment : Fragment) : empty ++ fragment = fragment := by
  apply eq_of_chunks
  simp

@[simp] theorem append_empty (fragment : Fragment) : fragment ++ empty = fragment := by
  apply eq_of_chunks
  simp

theorem append_assoc (first second third : Fragment) :
    first ++ second ++ third = first ++ (second ++ third) := by
  apply eq_of_chunks
  simp

/-- Behind a member that printed, every other one that prints has its separator. -/
private theorem joinFrom_false (separator : String) (fragments : List Fragment) :
    joinFrom separator false fragments =
      ((fragments.filter fun fragment => !fragment.isEmpty).map Fragment.chunks).flatMap
        (Chunk.raw separator :: ·) := by
  induction fragments with
  | nil => rfl
  | cons fragment rest later =>
    cases blank : fragment.isEmpty with
    | true => simpa [joinFrom, blank] using later
    | false => simp [joinFrom, blank, later]

private theorem intercalate_cons (mark : Chunk) (first : List Chunk)
    (others : List (List Chunk)) :
    [mark].intercalate (first :: others) = first ++ others.flatMap (mark :: ·) := by
  induction others generalizing first with
  | nil => simp
  | cons next rest later => rw [List.intercalate_cons_cons, later]; simp

/-- The members of a join that print something, with the separator between their chunks. -/
theorem chunks_join (separator : String) (fragments : List Fragment) :
    (join separator fragments).chunks = [Chunk.raw separator].intercalate
      ((fragments.filter fun fragment => !fragment.isEmpty).map Fragment.chunks) := by
  rw [join]
  induction fragments with
  | nil => rfl
  | cons fragment rest later =>
    cases blank : fragment.isEmpty with
    | true => simpa [joinFrom, blank] using later
    | false =>
      rw [List.filter_cons_of_pos (by simp [blank]), List.map_cons, intercalate_cons,
        ← joinFrom_false]
      simp [joinFrom, blank]

/-- Where every member prints something, a join leaves none of them out. -/
theorem chunks_join_of_prints {fragments : List Fragment}
    (print : ∀ fragment ∈ fragments, fragment.isEmpty = false) (separator : String) :
    (join separator fragments).chunks =
      [Chunk.raw separator].intercalate (fragments.map Fragment.chunks) := by
  have all : fragments.filter (fun fragment => !fragment.isEmpty) = fragments :=
    List.filter_eq_self.mpr fun fragment member => by rw [print fragment member]; rfl
  rw [chunks_join, all]

theorem isEmpty_append (first second : Fragment) :
    (first ++ second).isEmpty = (first.isEmpty && second.isEmpty) := by
  simp [isEmpty]

@[simp] theorem isEmpty_param (value : Value) : (param value).isEmpty = false := rfl

@[simp] theorem isEmpty_parens (fragment : Fragment) : fragment.parens.isEmpty = false := by
  simp [isEmpty, Chunk.isBlank]

/-- A join prints nothing exactly when none of its members prints anything. -/
theorem isEmpty_join (separator : String) (fragments : List Fragment) :
    (join separator fragments).isEmpty = fragments.all isEmpty := by
  rw [isEmpty, chunks_join, Bool.eq_iff_iff]
  cases found : fragments.filter fun fragment => !fragment.isEmpty with
  | nil =>
    have blank : ∀ fragment ∈ fragments, fragment.isEmpty = true := by
      simpa using List.filter_eq_nil_iff.mp found
    simpa using blank
  | cons first rest =>
    have member : first ∈ fragments.filter fun fragment => !fragment.isEmpty := by simp [found]
    have printing := List.mem_filter.mp member
    have visible : ¬ first.chunks.all Chunk.isBlank = true := by
      simpa [isEmpty] using printing.2
    constructor
    · intro blank
      refine absurd (List.all_eq_true.mpr fun chunk inside => ?_) visible
      refine List.all_eq_true.mp blank chunk ?_
      cases rest <;> simp [inside]
    · intro blank
      exact absurd (List.all_eq_true.mp blank first printing.1) visible

/-! Joins of joins -/

/-- A join looks at the fragments that print something, and at no others. -/
theorem join_printing (separator : String) (fragments : List Fragment) :
    join separator (fragments.filter fun fragment => !fragment.isEmpty) =
      join separator fragments := by
  apply eq_of_chunks
  simp only [chunks_join, List.filter_filter, Bool.and_self]

/-- A fragment that prints nothing leaves no trace in a join, wherever it stands. -/
theorem join_insert (separator : String) {blank : Fragment} (nothing : blank.isEmpty = true)
    (before after : List Fragment) :
    join separator (before ++ blank :: after) = join separator (before ++ after) := by
  apply eq_of_chunks
  simp [chunks_join, nothing]

theorem join_singleton (separator : String) {fragment : Fragment}
    (prints : fragment.isEmpty = false) : join separator [fragment] = fragment := by
  apply eq_of_chunks
  simp [chunks_join, prints]

private theorem printing_eq_nil {separator : String} {fragments : List Fragment}
    (blank : (join separator fragments).isEmpty = true) :
    (fragments.filter fun fragment => !fragment.isEmpty) = [] := by
  simpa [isEmpty_join, List.filter_eq_nil_iff] using blank

private theorem printing_ne_nil {separator : String} {fragments : List Fragment}
    (prints : (join separator fragments).isEmpty = false) :
    (fragments.filter fun fragment => !fragment.isEmpty).map chunks ≠ [] := by
  intro none
  rw [isEmpty, chunks_join, none] at prints
  cases prints

/-- Joining once more changes nothing. -/
theorem join_join (separator : String) (fragments : List Fragment) :
    join separator [join separator fragments] = join separator fragments := by
  cases blank : (join separator fragments).isEmpty with
  | false => exact join_singleton separator blank
  | true =>
    rw [← join_printing separator fragments, printing_eq_nil blank]
    rfl

private theorem intercalate_append {separator : List Chunk} {first second : List (List Chunk)}
    (some : first ≠ []) (more : second ≠ []) :
    separator.intercalate (first ++ second) =
      separator.intercalate first ++ separator ++ separator.intercalate second := by
  induction first with
  | nil => exact absurd rfl some
  | cons head rest later =>
    cases rest with
    | nil => simp [List.intercalate_cons_of_ne_nil more]
    | cons next others =>
      rw [List.cons_append, List.intercalate_cons_of_ne_nil (by simp), later (by simp),
        List.intercalate_cons_cons]
      simp only [List.append_assoc]

/-- Parts of a list can be joined first, whatever prints nothing in them. -/
theorem join_append (separator : String) (first second : List Fragment) :
    join separator (first ++ second) =
      join separator [join separator first, join separator second] := by
  have printing := join_printing separator (first ++ second)
  rw [List.filter_append] at printing
  cases one : (join separator first).isEmpty with
  | true =>
    rw [printing_eq_nil one, List.nil_append, join_printing] at printing
    rw [← printing]
    exact (join_join separator second).symm.trans (join_insert separator one [] _).symm
  | false =>
    cases two : (join separator second).isEmpty with
    | true =>
      rw [printing_eq_nil two, List.append_nil, join_printing] at printing
      rw [← printing]
      exact (join_join separator first).symm.trans (join_insert separator two [_] []).symm
    | false =>
      apply eq_of_chunks
      have pair : (join separator [join separator first, join separator second]).chunks =
          (join separator first).chunks ++ [.raw separator] ++ (join separator second).chunks := by
        simp [chunks_join separator (_ :: _), one, two]
      rw [pair, chunks_join, chunks_join, chunks_join, ← intercalate_append (printing_ne_nil one)
        (printing_ne_nil two), ← List.map_append, ← List.filter_append]

/-- A join of joins is the join of all their members. -/
theorem join_flatten (separator : String) (lists : List (List Fragment)) :
    join separator (lists.map (join separator)) = join separator lists.flatten := by
  induction lists with
  | nil => rfl
  | cons first rest later =>
    rw [List.flatten_cons, join_append, ← later, List.map_cons, ← List.singleton_append,
      join_append, join_join]

/-- What prints nothing holds no value, since every value prints a placeholder. -/
theorem params_eq_nil_of_isEmpty {fragment : Fragment} (blank : fragment.isEmpty = true) :
    fragment.params = [] := by
  obtain ⟨chunks⟩ := fragment
  induction chunks with
  | nil => rfl
  | cons chunk rest later =>
    simp only [isEmpty, List.all_cons, Bool.and_eq_true] at blank
    cases chunk with
    | raw text => exact later blank.2
    | param value => cases blank.1

theorem params_append (first second : Fragment) :
    (first ++ second).params = first.params ++ second.params := by
  rw [params, chunks_append, paramsOf_append]
  rfl

@[simp] theorem params_raw (text : String) : (raw text).params = [] := rfl

@[simp] theorem params_param (value : Value) : (param value).params = [value] := rfl

@[simp] theorem params_empty : empty.params = [] := rfl

@[simp] theorem params_push_raw (fragment : Fragment) (text : String) :
    (fragment.push (.raw text)).params = fragment.params := by
  simp [params, push, paramsOf_append, paramsOf]

@[simp] theorem params_parens (fragment : Fragment) : fragment.parens.params = fragment.params := by
  simp [params, paramsOf, paramsOf_append]

theorem paramsOf_intercalate (separator : String) (parts : List (List Chunk)) :
    paramsOf ([Chunk.raw separator].intercalate parts) = parts.flatMap paramsOf := by
  induction parts with
  | nil => rfl
  | cons first rest later =>
    cases rest with
    | nil => simp
    | cons second others =>
      rw [List.intercalate_cons_cons, paramsOf_append, later, paramsOf_append]
      simp [paramsOf]

/-- Leaving out what prints nothing loses no value. -/
theorem params_join (separator : String) (fragments : List Fragment) :
    (join separator fragments).params = fragments.flatMap params := by
  rw [params, chunks_join, paramsOf_intercalate, List.flatMap_map]
  induction fragments with
  | nil => rfl
  | cons first rest later =>
    cases blank : first.isEmpty with
    | false => simpa [blank, params] using later
    | true => simpa [blank, params_eq_nil_of_isEmpty blank] using later

@[simp] theorem params_paramList (values : List Value) : (paramList values).params = values := by
  induction values with
  | nil => rfl
  | cons first rest later =>
    cases rest with
    | nil => rfl
    | cons second others => exact congrArg (first :: ·) later

theorem length_splitOn (mark : Char) (text : List Char) :
    (text.splitOn mark).length = text.count mark + 1 := by
  induction text with
  | nil => rfl
  | cons c rest later =>
    rw [List.splitOn_cons_eq_if_modifyHead, List.count_cons]
    split <;> simp [later]

/-- A segment lies in the text, and the mark does not lie in it. -/
theorem segment_of_mem_splitOn {mark : Char} {text segment : List Char}
    (member : segment ∈ text.splitOn mark) : mark ∉ segment ∧ segment ⊆ text := by
  induction text generalizing segment with
  | nil =>
    obtain rfl : segment = [] := by simpa using member
    simp
  | cons c rest later =>
    rw [List.splitOn_cons_eq_if_modifyHead] at member
    split at member
    · rcases List.mem_cons.mp member with rfl | member
      · simp
      · obtain ⟨free, inside⟩ := later member
        exact ⟨free, List.subset_cons_of_subset c inside⟩
    · rename_i different
      obtain ⟨first, others, cut⟩ := List.exists_cons_of_ne_nil (List.splitOn_ne_nil mark rest)
      rw [cut] at later
      rw [cut, List.modifyHead_cons] at member
      rcases List.mem_cons.mp member with rfl | member
      · obtain ⟨free, inside⟩ := later List.mem_cons_self
        have other : mark ≠ c := fun same => different (beq_iff_eq.mpr same.symm)
        exact ⟨List.not_mem_cons_of_ne_of_not_mem other free, List.cons_subset_cons c inside⟩
      · obtain ⟨free, inside⟩ := later (List.mem_cons_of_mem _ member)
        exact ⟨free, List.subset_cons_of_subset c inside⟩

/-- The pass over a template weaves the segments and the values exactly when there are as many values
as markers, and else its counters say how many there were of both. -/
theorem template_eq (text : String) (values : List Value) :
    template text values =
      if text.toList.count marker = values.length then
        .ok ⟨weave (text.toList.splitOn marker) values⟩
      else .error (.markerMismatch (text.toList.count marker) values.length) := by
  rw [template, Filling.pass_eq, length_splitOn, Nat.add_sub_cancel, Filling.finish]
  generalize text.toList.count marker = markers
  simp only [Filling.start, List.nil_append, Nat.zero_add, List.length_drop]
  by_cases fits : markers = values.length
  · rw [if_pos fits, if_neg (by omega)]
  · have given : min markers values.length + (values.length - markers) = values.length := by omega
    rw [if_neg fits, if_pos (by omega), given]

/-- What a template makes of its values, if they are as many as its markers. -/
theorem template_eq_ok_iff {text : String} {values : List Value} {fragment : Fragment} :
    template text values = .ok fragment ↔
      text.toList.count marker = values.length ∧
        fragment = ⟨weave (text.toList.splitOn marker) values⟩ := by
  rw [template_eq]
  by_cases fits : text.toList.count marker = values.length
  · rw [if_pos fits, Except.ok.injEq, eq_comm]
    exact (and_iff_right fits).symm
  · rw [if_neg fits]
    constructor
    · rintro ⟨⟩
    · intro made
      exact absurd made.1 fits

private theorem paramsOf_rawChunk (text : List Char) : paramsOf (rawChunk text) = [] := by
  rw [rawChunk]
  split <;> rfl

/-- Weaving keeps every value when there is one more segment than values. -/
private theorem paramsOf_weave (segments : List (List Char)) (values : List Value)
    (fits : segments.length = values.length + 1) : paramsOf (weave segments values) = values := by
  fun_induction weave segments values with
  | case1 => cases fits
  | case2 segment values =>
    have empty : values = [] := by simpa using fits
    rw [empty, paramsOf_rawChunk]
  | case3 segment segments further =>
    exact absurd (by simpa using fits) further
  | case4 segment segments value values further later =>
    rw [paramsOf_append, paramsOf_rawChunk, paramsOf, later (by simpa using fits)]
    rfl

/-- A template holds the values that it was given. -/
theorem params_of_template {text : String} {values : List Value} {fragment : Fragment}
    (made : template text values = .ok fragment) : fragment.params = values := by
  obtain ⟨fits, rfl⟩ := template_eq_ok_iff.mp made
  exact paramsOf_weave _ _ (by rw [length_splitOn, fits])

/-! Plain placeholders -/

/-- The text of chunks with a question mark for every value. -/
def marked : List Chunk → List Char
  | [] => []
  | .raw text :: rest => text.toList ++ marked rest
  | .param _ :: rest => '?' :: marked rest

theorem marked_append (first second : List Chunk) :
    marked (first ++ second) = marked first ++ marked second := by
  induction first with
  | nil => rfl
  | cons chunk rest later =>
    cases chunk with
    | raw text => rw [List.cons_append, marked, marked, later, List.append_assoc]
    | param value => exact congrArg ('?' :: ·) later

/-- Dialects without numbers write every placeholder as a question mark. -/
theorem text_of_plain {dialect : Dialect} (plain : dialect.numbered = false)
    (fragment : Fragment) : fragment.text dialect = String.ofList (marked fragment.chunks) := by
  have each (position : Nat) (chunks : List Chunk) :
      (textFrom dialect position chunks).toList = marked chunks := by
    induction chunks generalizing position with
    | nil => rfl
    | cons chunk rest later =>
      cases chunk with
      | raw text => rw [textFrom, String.toList_append, later, marked]
      | param value =>
        have mark : dialect.placeholder position = "?" := by
          rw [Dialect.placeholder, plain]
          rfl
        rw [textFrom, String.toList_append, later, mark, marked]
        rfl
  rw [text_eq_textFrom, ← each 1, String.ofList_toList]

/-! Replacing values. Every operation on fragments commutes with it. -/

/-- A chunk with its value replaced. -/
def mapChunk (change : Value → Value) : Chunk → Chunk
  | .raw text => .raw text
  | .param value => .param (change value)

/-- A fragment with every value replaced. -/
def mapValues (change : Value → Value) (fragment : Fragment) : Fragment :=
  ⟨fragment.chunks.map (mapChunk change)⟩

variable (change : Value → Value)

private theorem paramsOf_map (chunks : List Chunk) :
    paramsOf (chunks.map (mapChunk change)) = (paramsOf chunks).map change := by
  induction chunks with
  | nil => rfl
  | cons chunk rest later =>
    cases chunk with
    | raw text => exact later
    | param value => exact congrArg (change value :: ·) later

theorem params_mapValues (fragment : Fragment) :
    (fragment.mapValues change).params = fragment.params.map change := paramsOf_map ..

private theorem textFrom_map (dialect : Dialect) (position : Nat) (chunks : List Chunk) :
    textFrom dialect position (chunks.map (mapChunk change)) =
      textFrom dialect position chunks := by
  induction chunks generalizing position with
  | nil => rfl
  | cons chunk rest later =>
    cases chunk with
    | raw text => exact congrArg (text ++ ·) (later position)
    | param value => exact congrArg (dialect.placeholder position ++ ·) (later (position + 1))

/-- The text of a fragment does not depend on what its values are. -/
theorem text_mapValues (fragment : Fragment) (dialect : Dialect) :
    (fragment.mapValues change).text dialect = fragment.text dialect := by
  rw [text_eq_textFrom, text_eq_textFrom]
  exact textFrom_map ..

@[simp] theorem isEmpty_mapValues (fragment : Fragment) :
    (fragment.mapValues change).isEmpty = fragment.isEmpty := by
  have same : ∀ chunk, (mapChunk change chunk).isBlank = chunk.isBlank := by
    intro chunk
    cases chunk <;> rfl
  simp only [isEmpty, mapValues, List.all_map]
  exact congrArg (fragment.chunks.all ·) (funext same)

@[simp] theorem mapValues_raw (text : String) : (raw text).mapValues change = raw text := rfl

@[simp] theorem mapValues_param (value : Value) :
    (param value).mapValues change = param (change value) := rfl

@[simp] theorem mapValues_empty : empty.mapValues change = empty := rfl

@[simp] theorem mapValues_append (first second : Fragment) :
    (first ++ second).mapValues change = first.mapValues change ++ second.mapValues change := by
  apply eq_of_chunks
  simp [mapValues]

@[simp] theorem mapValues_push_raw (fragment : Fragment) (text : String) :
    (fragment.push (.raw text)).mapValues change = (fragment.mapValues change).push (.raw text) :=
  congrArg Fragment.mk List.map_append

@[simp] theorem mapValues_parens (fragment : Fragment) :
    fragment.parens.mapValues change = (fragment.mapValues change).parens := by
  simp [parens]

@[simp] theorem mapValues_paramList (values : List Value) :
    (paramList values).mapValues change = paramList (values.map change) := by
  apply congrArg Fragment.mk
  induction values with
  | nil => rfl
  | cons first rest later =>
    cases rest with
    | nil => rfl
    | cons second others =>
      exact congrArg (fun tail => Chunk.param (change first) :: Chunk.raw "," :: tail) later

private theorem map_intercalate (separator : String) (parts : List (List Chunk)) :
    ([Chunk.raw separator].intercalate parts).map (mapChunk change) =
      [Chunk.raw separator].intercalate (parts.map (List.map (mapChunk change))) := by
  induction parts with
  | nil => rfl
  | cons first rest later =>
    cases rest with
    | nil => simp
    | cons second others => simp [later, mapChunk]

theorem filter_mapValues (fragments : List Fragment) :
    (fragments.map (mapValues change)).filter (fun fragment => !fragment.isEmpty) =
      (fragments.filter fun fragment => !fragment.isEmpty).map (mapValues change) := by
  rw [List.filter_map]
  simp [Function.comp_def]

@[simp] theorem mapValues_join (separator : String) (fragments : List Fragment) :
    (join separator fragments).mapValues change =
      join separator (fragments.map (mapValues change)) := by
  apply eq_of_chunks
  rw [mapValues, chunks_join, chunks_join, map_intercalate, filter_mapValues, List.map_map,
    List.map_map]
  rfl

private theorem map_rawChunk (text : List Char) :
    (rawChunk text).map (mapChunk change) = rawChunk text := by
  rw [rawChunk]
  split <;> rfl

private theorem map_weave (segments : List (List Char)) (values : List Value) :
    (weave segments values).map (mapChunk change) = weave segments (values.map change) := by
  fun_induction weave segments values with
  | case1 => simp [weave]
  | case2 segment values => simp [weave, map_rawChunk]
  | case3 segment segments further later => simp_all [weave, map_rawChunk]
  | case4 segment segments value values further later =>
    simp_all [weave, map_rawChunk, mapChunk]

/-- A template fails or succeeds by the number of its values alone. -/
theorem template_map (text : String) (values : List Value) :
    template text (values.map change) = (template text values).map (mapValues change) := by
  simp only [template_eq, List.length_map]
  split
  · exact congrArg (Except.ok ∘ Fragment.mk) (map_weave change ..).symm
  · rfl

end QueryGate.Fragment
