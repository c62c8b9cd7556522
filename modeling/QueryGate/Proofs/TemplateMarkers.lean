import QueryGate.Proofs.PlaceholderNumbering

/-! Templates accept exactly as many values as they have markers. The values take the places of the
markers and the text around them stays as it is. In numbered text this is not always enough: a
server takes all digits behind a dollar sign for the number of a placeholder, so a digit that stands
right behind a marker joins the number written there. -/
namespace QueryGate.TemplateMarkers
open Fragment PlaceholderNumbering

variable {text : String} {values : List Value} {fragment : Fragment}

/-- The fragment is the text with the values at its markers, in order, and nothing besides. -/
structure Fills (text : String) (values : List Value) (fragment : Fragment) : Prop where
  params : fragment.params = values
  plain : ∀ dialect, dialect ≠ .postgresql → fragment.build dialect = ⟨text, values⟩
  numbered : fragment.build .postgresql = ⟨String.ofList (numberMarks 1 text.toList), values⟩
  segments : ∀ segment, .raw segment ∈ fragment.chunks → segment ≠ "" ∧ '?' ∉ segment.toList

/-! Weaving -/

private theorem marked_rawChunk (segment : List Char) : marked (rawChunk segment) = segment := by
  rw [rawChunk]
  split
  · rename_i empty
    rw [List.isEmpty_iff.mp empty]
    rfl
  · simp [marked]

private theorem raw_mem_rawChunk {segment : List Char} {piece : String}
    (member : .raw piece ∈ rawChunk segment) : piece ≠ "" ∧ piece.toList = segment := by
  rw [rawChunk] at member
  split at member
  · cases member
  · rename_i visible
    obtain rfl : piece = String.ofList segment := by simpa using member
    have some : segment ≠ [] := fun empty => visible (List.isEmpty_iff.mpr empty)
    simpa using some

private theorem raw_mem_front {segment : List Char} {segments : List (List Char)}
    {rest : List Chunk} {piece : String}
    (later : .raw piece ∈ rest → piece ≠ "" ∧ piece.toList ∈ segments)
    (member : .raw piece ∈ rawChunk segment ++ rest) :
    piece ≠ "" ∧ piece.toList ∈ segment :: segments := by
  rcases List.mem_append.mp member with own | behind
  · obtain ⟨visible, same⟩ := raw_mem_rawChunk own
    exact ⟨visible, same ▸ List.mem_cons_self⟩
  · obtain ⟨visible, inside⟩ := later behind
    exact ⟨visible, List.mem_cons_of_mem _ inside⟩

/-- The raw chunks are the segments that are not empty. -/
private theorem raw_mem_weave {segments : List (List Char)} {values : List Value} {piece : String}
    (member : .raw piece ∈ weave segments values) : piece ≠ "" ∧ piece.toList ∈ segments := by
  fun_induction weave segments values with
  | case1 => cases member
  | case2 segment values =>
    obtain ⟨visible, same⟩ := raw_mem_rawChunk member
    exact ⟨visible, List.mem_singleton.mpr same⟩
  | case3 segment segments further later => exact raw_mem_front later member
  | case4 segment segments value values further later =>
    exact raw_mem_front (fun behind => later (by simpa using behind)) member

/-- Plain placeholders put the markers back between the segments. -/
private theorem marked_weave (segments : List (List Char)) (values : List Value)
    (fits : segments.length = values.length + 1) :
    marked (weave segments values) = ['?'].intercalate segments := by
  fun_induction weave segments values with
  | case1 => cases fits
  | case2 segment values => simp [marked_rawChunk]
  | case3 segment segments further => exact absurd (by simpa using fits) further
  | case4 segment segments value values further later =>
    have rest : segments.length = values.length + 1 := by simpa using fits
    rw [marked_append, marked_rawChunk, marked, later rest, List.intercalate_cons_of_ne_nil further]
    simp

private theorem segments_of_fits (fits : text.toList.count '?' = values.length) :
    (text.toList.splitOn marker).length = values.length + 1 := by
  rw [length_splitOn, ← fits]
  rfl

/-- Values that are as many as the markers fill the places of all markers, and nothing else. -/
theorem fills_of_fits (fits : text.toList.count '?' = values.length) :
    Fills text values ⟨weave (text.toList.splitOn marker) values⟩ := by
  have params := params_of_template (template_eq_ok_iff.mpr ⟨fits, rfl⟩)
  have counted := segments_of_fits fits
  have printed : marked (weave (text.toList.splitOn marker) values) = text.toList := by
    rw [marked_weave _ _ counted]
    exact List.intercalate_splitOn marker
  have segments : ∀ piece, .raw piece ∈ weave (text.toList.splitOn marker) values →
      piece ≠ "" ∧ '?' ∉ piece.toList := by
    intro piece member
    obtain ⟨visible, inside⟩ := raw_mem_weave member
    exact ⟨visible, (segment_of_mem_splitOn inside).1⟩
  have numbered := numberMarks_of_free 1 fun piece member => (segments piece member).2
  rw [printed] at numbered
  refine { params, plain := fun dialect other => ?_, numbered := ?_, segments }
  · have unnumbered : dialect.numbered = false := by
      cases dialect with
      | postgresql => exact absurd rfl other
      | sqlite => rfl
      | mysql => rfl
    rw [build_eq_text_params, text_of_plain unnumbered, params, printed, String.ofList_toList]
  · rw [build_eq_text_params, text_eq_textFrom, params, numbered, String.ofList_toList]

/-- A template takes as many values as it has markers, and then it is the text with the values at
the markers. It refuses any other number of values, more of them or fewer, and says how many markers
and how many values there are. -/
theorem template_takes_value_per_marker (text : String) (values : List Value) :
    if text.toList.count '?' = values.length then
      ∃ fragment, template text values = .ok fragment ∧ Fills text values fragment
    else template text values =
      .error (.markerMismatch (text.toList.count '?') values.length) := by
  split
  · rename_i fits
    exact ⟨_, template_eq_ok_iff.mpr ⟨fits, rfl⟩, fills_of_fits fits⟩
  · rename_i differs
    rw [template_eq]
    exact if_neg differs

/-! Reading numbered text -/

/-- The value that a server binds where it reads these digits behind a dollar sign: positions are
counted from one. -/
def bound (values : List Value) (digits : List Char) : Option Value :=
  match Text.ofDigits digits with
  | 0 => none
  | position + 1 => values[position]?

private theorem textFrom_rawChunk (dialect : Dialect) (position : Nat) (segment : List Char)
    (rest : List Chunk) :
    (textFrom dialect position (rawChunk segment ++ rest)).toList =
      segment ++ (textFrom dialect position rest).toList := by
  rw [rawChunk]
  split
  · rename_i empty
    rw [List.isEmpty_iff.mp empty]
    rfl
  · simp [textFrom]

private theorem takeWhile_append_stop {first second : List Char}
    (stops : second.takeWhile Char.isDigit = []) :
    (first ++ second).takeWhile Char.isDigit = first.takeWhile Char.isDigit := by
  induction first with
  | nil => exact stops
  | cons c rest later => rw [List.cons_append, List.takeWhile_cons, List.takeWhile_cons, later]

/-- Digits at the start of woven text come from its first segment: behind it the text ends, or a
dollar sign follows. -/
private theorem takeWhile_woven (position : Nat) {segment : List Char}
    {segments : List (List Char)} {values : List Value}
    (fits : segments.length = values.length) :
    (textFrom .postgresql position (weave (segment :: segments) values)).toList.takeWhile
      Char.isDigit = segment.takeWhile Char.isDigit := by
  cases segments with
  | nil =>
    have only := textFrom_rawChunk .postgresql position segment []
    rw [List.append_nil] at only
    rw [weave, only]
    exact takeWhile_append_stop rfl
  | cons next others =>
    obtain ⟨value, rest, rfl⟩ := List.exists_cons_of_length_eq_add_one fits.symm
    rw [weave.eq_4 _ _ _ _ (List.cons_ne_nil next others), textFrom_rawChunk, textFrom,
      String.toList_append, placeholder_toList_postgresql]
    exact takeWhile_append_stop rfl

/-- A server reads every placeholder together with the digits that start the next segment. -/
private theorem numbersRead_weave (position : Nat) {segments : List (List Char)}
    {values : List Value} (noDollar : ∀ segment ∈ segments, '$' ∉ segment)
    (fits : segments.length = values.length + 1) :
    numbersRead (textFrom .postgresql position (weave segments values)).toList =
      List.zipWith (fun number segment => Text.decimal number ++ segment.takeWhile Char.isDigit)
        (List.range' position values.length) segments.tail := by
  fun_induction weave segments values generalizing position with
  | case1 => cases fits
  | case2 segment values =>
    obtain rfl : values = [] := by simpa using fits
    have only := textFrom_rawChunk .postgresql position segment []
    have ended := numbersRead_append (noDollar segment List.mem_cons_self) []
    rw [List.append_nil] at only
    rw [only]
    exact ended
  | case3 segment segments further => exact absurd (by simpa using fits) further
  | case4 segment segments value values further later =>
    have rest : segments.length = values.length + 1 := by simpa using fits
    obtain ⟨next, others, rfl⟩ := List.exists_cons_of_ne_nil further
    have tail := later (position + 1)
      (fun segment member => noDollar segment (List.mem_cons_of_mem _ member)) rest
    rw [textFrom_rawChunk, numbersRead_append (noDollar segment List.mem_cons_self), textFrom,
      String.toList_append, placeholder_toList_postgresql, numbersRead_placeholder, tail,
      takeWhile_woven (position + 1) (by simpa using rest)]
    simp [List.range'_succ]

private theorem extended_eq_iff {position : Nat} {segments : List (List Char)} :
    List.zipWith (fun number segment => Text.decimal number ++ segment.takeWhile Char.isDigit)
        (List.range' position segments.length) segments =
      (List.range' position segments.length).map Text.decimal ↔
    ∀ segment ∈ segments, StartsPlainly segment := by
  induction segments generalizing position with
  | nil => simp
  | cons segment rest later =>
    rw [List.length_cons, List.range'_succ, List.zipWith_cons_cons, List.map_cons, List.cons.injEq,
      List.append_right_eq_self, takeWhile_eq_nil_iff, later, List.forall_mem_cons]

theorem bound_decimal (values : List Value) (index : Nat) :
    bound values (Text.decimal (index + 1)) = values[index]? := by
  rw [bound, Text.ofDigits_decimal]

/-- Positions in order bind the values in order. -/
theorem map_bound_decimal (values : List Value) :
    ((List.range' 1 values.length).map Text.decimal).map (bound values) = values.map some := by
  refine List.ext_getElem? fun index => ?_
  by_cases inside : index < values.length
  · simp [inside, Nat.add_comm 1, bound_decimal]
  · simp [inside]

/-- In the numbered text of a template without dollar signs, a server reads the positions of the
values in order exactly when no digit stands right behind a marker. It then binds each value at the
place of its marker. -/
theorem positions_read_back_iff_apart (noDollar : '$' ∉ text.toList)
    (made : template text values = .ok fragment) :
    (numbersRead (fragment.build .postgresql).text.toList =
        (List.range' 1 values.length).map Text.decimal ↔ MarkedApart text.toList) ∧
      (MarkedApart text.toList →
        (numbersRead (fragment.build .postgresql).text.toList).map (bound values) =
          values.map some) := by
  obtain ⟨fits, rfl⟩ := template_eq_ok_iff.mp made
  have counted := segments_of_fits fits
  have free : ∀ segment ∈ text.toList.splitOn marker, '$' ∉ segment :=
    fun segment member dollar => noDollar ((segment_of_mem_splitOn member).2 dollar)
  have read := numbersRead_weave 1 free counted
  have behind : (text.toList.splitOn marker).tail.length = values.length := by
    rw [List.length_tail, counted, Nat.add_sub_cancel]
  have exact_iff : numbersRead (textFrom .postgresql 1
      (weave (text.toList.splitOn marker) values)).toList =
        (List.range' 1 values.length).map Text.decimal ↔ MarkedApart text.toList := by
    rw [read, ← behind, extended_eq_iff, markedApart_iff, and_iff_right noDollar]
  rw [build_eq_text_params, text_eq_textFrom]
  refine ⟨exact_iff, fun apart => ?_⟩
  rw [← map_bound_decimal]
  exact congrArg (List.map (bound values)) (exact_iff.mpr apart)

/-- A cast behind the first marker, and a digit that stands clear of both. -/
def castText : String := "a = ?::int2 OR b = ?"

theorem casts_bind_in_order :
    ∃ fragment, template castText [.integer 3, .null] = .ok fragment ∧ MarkedApart castText.toList ∧
      numbersRead (fragment.build .postgresql).text.toList = [['1'], ['2']] ∧
      (numbersRead (fragment.build .postgresql).text.toList).map (bound [.integer 3, .null]) =
        [some (.integer 3), some .null] := by
  have made : template castText [.integer 3, .null] =
      .ok ⟨[.raw "a = ", .param (.integer 3), .raw "::int2 OR b = ", .param .null]⟩ := rfl
  have apart : MarkedApart castText.toList := by
    simp [castText, MarkedApart, StartsPlainly]
  obtain ⟨reads, binds⟩ := positions_read_back_iff_apart (by simp [castText]) made
  refine ⟨_, made, apart, (reads.mpr apart).trans ?_, binds apart⟩
  simp [List.range', Text.decimal, Text.digitChar]

/-- A digit behind a marker makes the first position read as the eleventh, which has no value. -/
theorem digit_joins_position :
    ∃ fragment, template "id = ?1" [.integer 7] = .ok fragment ∧ '$' ∉ "id = ?1".toList ∧
      (fragment.build .postgresql).text = "id = $11" ∧
      numbersRead (fragment.build .postgresql).text.toList = [['1', '1']] ∧
      numbersRead (fragment.build .postgresql).text.toList ≠ (List.range' 1 1).map Text.decimal ∧
      bound [.integer 7] ['1', '1'] = none := by
  have one : Text.decimal 1 = ['1'] := by simp [Text.decimal, Text.digitChar]
  have printed : (Fragment.build ⟨[.raw "id = ", .param (.integer 7), .raw "1"]⟩ .postgresql).text =
      "id = $11" := by
    rw [build_eq_text_params, text_eq_textFrom]
    simp [textFrom, Dialect.placeholder, Dialect.numbered, Text.natural, one]
  refine ⟨⟨[.raw "id = ", .param (.integer 7), .raw "1"]⟩, rfl, by decide, printed, ?_, ?_, rfl⟩
  · rw [printed]
    decide
  · rw [printed, List.range'_one, List.map_singleton, one]
    decide

end QueryGate.TemplateMarkers
