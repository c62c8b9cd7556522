import Mathlib.Data.List.Basic
import QueryGate.Proofs.StatementProofs

/-! Placeholders and values line up in every dialect. Texts that contain no sign of a placeholder
leave all of them to the values, and no digit stands right behind a value, so that a numbered
placeholder is read back with its own number. -/
namespace QueryGate.PlaceholderNumbering
open Fragment

/-- The runs of digits behind the dollar signs of a text, from left to right. -/
def numbersRead : List Char → List (List Char)
  | [] => []
  | c :: rest =>
    if c = '$' then rest.takeWhile Char.isDigit :: numbersRead rest else numbersRead rest

/-- The text with a numbered placeholder for every question mark, counted from `position`. -/
def numberMarks (position : Nat) : List Char → List Char
  | [] => []
  | c :: rest =>
    if c = '?' then '$' :: Text.decimal position ++ numberMarks (position + 1) rest
    else c :: numberMarks position rest

/-- Neither sign of a placeholder occurs in the text. -/
def Unmarked (text : List Char) : Prop := '?' ∉ text ∧ '$' ∉ text

/-- The text does not start with a digit. -/
def StartsPlainly (text : List Char) : Prop := ∀ c ∈ text.head?, c.isDigit = false

/-- A template without dollar signs in which no digit follows a marker at once. -/
def MarkedApart : List Char → Prop
  | [] => True
  | c :: rest => c ≠ '$' ∧ (c = '?' → StartsPlainly rest) ∧ MarkedApart rest

/-- The first character that the chunks print, if there is one, is no digit. -/
def OpensPlainly : List Chunk → Prop
  | [] => True
  | .param _ :: _ => True
  | .raw text :: rest => StartsPlainly text.toList ∧ (text.toList = [] → OpensPlainly rest)

/-- No raw text contains the sign of a placeholder, and no digit stands right behind a value. -/
def Legible : List Chunk → Prop
  | [] => True
  | .raw text :: rest => Unmarked text.toList ∧ Legible rest
  | .param _ :: rest => OpensPlainly rest ∧ Legible rest

theorem unmarked_append {first second : List Char} :
    Unmarked (first ++ second) ↔ Unmarked first ∧ Unmarked second := by
  simp only [Unmarked, List.mem_append, not_or]
  exact and_and_and_comm

private theorem unmarked_decimal (n : Nat) : Unmarked (Text.decimal n) := by
  have digits := Text.isDigit_of_mem_decimal n
  exact ⟨fun member => absurd (digits _ member) (by decide),
    fun member => absurd (digits _ member) (by decide)⟩

/-! Legible chunks -/

theorem open_append {first second : List Chunk} (before : OpensPlainly first)
    (after : OpensPlainly second) : OpensPlainly (first ++ second) := by
  induction first with
  | nil => exact after
  | cons chunk rest later =>
    cases chunk with
    | param value => trivial
    | raw text => exact ⟨before.1, fun empty => later (before.2 empty)⟩

/-- Parts put together stay legible if the second does not start with a digit. -/
theorem legible_append {first second : List Chunk} (before : Legible first)
    (after : Legible second) (opens : OpensPlainly second) : Legible (first ++ second) := by
  induction first with
  | nil => exact after
  | cons chunk rest later =>
    cases chunk with
    | raw text => exact ⟨before.1, later before.2⟩
    | param value => exact ⟨open_append before.1 opens, later before.2⟩

private theorem legible_intercalate {separator : String} (plain : Unmarked separator.toList)
    (opens : ∀ rest, OpensPlainly (.raw separator :: rest)) {parts : List (List Chunk)}
    (each : ∀ part ∈ parts, Legible part) :
    Legible ([Chunk.raw separator].intercalate parts) := by
  induction parts with
  | nil => trivial
  | cons first rest later =>
    have tail := later fun part member => each part (List.mem_cons_of_mem _ member)
    cases rest with
    | nil => simpa using each first List.mem_cons_self
    | cons second others =>
      rw [List.intercalate_cons_cons, List.append_assoc]
      exact legible_append (each first List.mem_cons_self) ⟨plain, tail⟩ (opens _)

/-- The text starts with something other than a digit. -/
private def Leads (text : List Char) : Prop := ∃ c ∈ text.head?, c.isDigit = false

private theorem leads_append {text : List Char} (leads : Leads text) (rest : List Char) :
    Leads (text ++ rest) := by
  obtain ⟨c, first, plain⟩ := leads
  exact ⟨c, by simp [Option.mem_def.mp first], plain⟩

private theorem opens_of_leads {text : String} (leads : Leads text.toList) (rest : List Chunk) :
    OpensPlainly (.raw text :: rest) := by
  obtain ⟨c, first, plain⟩ := leads
  refine ⟨fun other found => ?_, fun empty => ?_⟩
  · rw [Option.mem_unique found first]
    exact plain
  · rw [empty] at first
    cases first

/-- What stands between joined members, and keeps them apart. -/
structure Separates (separator : String) : Prop where
  unmarked : Unmarked separator.toList
  opens : ∀ rest, OpensPlainly (.raw separator :: rest)

theorem legible_join {separator : String} (separates : Separates separator)
    {fragments : List Fragment} (each : ∀ fragment ∈ fragments, Legible fragment.chunks) :
    Legible (join separator fragments).chunks := by
  rw [chunks_join]
  refine legible_intercalate separates.unmarked separates.opens fun part member => ?_
  obtain ⟨fragment, printing, rfl⟩ := List.mem_map.mp member
  exact each fragment (List.mem_of_mem_filter printing)

private theorem separates_comma : Separates ", " :=
  ⟨by simp [Unmarked], opens_of_leads (by simp [Leads])⟩

private theorem separates_space : Separates " " :=
  ⟨by simp [Unmarked], opens_of_leads (by simp [Leads])⟩

private theorem separates_and : Separates " AND " :=
  ⟨by simp [Unmarked], opens_of_leads (by simp [Leads])⟩

private theorem separates_connective (connective : Connective) :
    Separates connective.separator := by
  cases connective with
  | and => exact separates_and
  | or => exact ⟨by simp [Unmarked, Connective.separator],
      opens_of_leads (by simp [Leads, Connective.separator])⟩

theorem legible_parens {fragment : Fragment} (legible : Legible fragment.chunks) :
    Legible fragment.parens.chunks := by
  have closing : Legible [.raw ")"] := ⟨by simp [Unmarked], trivial⟩
  have opens : OpensPlainly [.raw ")"] := opens_of_leads (by simp [Leads]) []
  rw [chunks_parens]
  exact ⟨by simp [Unmarked], legible_append legible closing opens⟩

/-! Templates -/

private theorem first_starts_iff {text first : List Char} {others : List (List Char)}
    (cut : text.splitOn marker = first :: others) : StartsPlainly first ↔ StartsPlainly text := by
  cases text with
  | nil =>
    cases cut
    exact .rfl
  | cons c rest =>
    rw [List.splitOn_cons_eq_if_modifyHead] at cut
    split at cut
    · rename_i marks
      obtain rfl : c = '?' := eq_of_beq marks
      cases cut
      simp [StartsPlainly]
    · obtain ⟨head, tail, pieces⟩ := List.exists_cons_of_ne_nil (List.splitOn_ne_nil marker rest)
      rw [pieces] at cut
      cases cut
      simp [StartsPlainly]

/-- What stands apart from its markers is cut into segments that start without a digit, but for the
first one, which no marker precedes. -/
theorem markedApart_iff {text : List Char} :
    MarkedApart text ↔
      '$' ∉ text ∧ ∀ segment ∈ (text.splitOn marker).tail, StartsPlainly segment := by
  induction text with
  | nil => simp [MarkedApart]
  | cons c rest later =>
    obtain ⟨first, others, cut⟩ := List.exists_cons_of_ne_nil (List.splitOn_ne_nil marker rest)
    have starts := first_starts_iff cut
    rw [MarkedApart, later, List.splitOn_cons_eq_if_modifyHead, cut]
    by_cases marks : c = '?'
    · subst marks
      simp [marker, starts, and_left_comm]
    · simp [marker, marks, eq_comm (a := c), and_assoc]

private theorem legible_rawChunk {text : List Char} {rest : List Chunk} (plain : Unmarked text)
    (legible : Legible rest) : Legible (rawChunk text ++ rest) := by
  rw [rawChunk]
  split
  · exact legible
  · exact ⟨by simpa using plain, legible⟩

private theorem opens_rawChunk {text : List Char} {rest : List Chunk} (plain : StartsPlainly text)
    (opens : OpensPlainly rest) : OpensPlainly (rawChunk text ++ rest) := by
  rw [rawChunk]
  split
  · exact opens
  · exact ⟨by simpa using plain, fun _ => opens⟩

private theorem opens_weave (segments : List (List Char)) (values : List Value)
    (starts : ∀ segment ∈ segments, StartsPlainly segment) :
    OpensPlainly (weave segments values) := by
  fun_induction weave segments values with
  | case1 => trivial
  | case2 segment values =>
    have last : OpensPlainly [] := trivial
    simpa using opens_rawChunk (starts segment List.mem_cons_self) last
  | case3 segment segments further later =>
    exact opens_rawChunk (starts segment List.mem_cons_self)
      (later fun other member => starts other (List.mem_cons_of_mem _ member))
  | case4 segment segments value values further later =>
    exact opens_rawChunk (starts segment List.mem_cons_self) trivial

private theorem legible_weave (segments : List (List Char)) (values : List Value)
    (unmarked : ∀ segment ∈ segments, Unmarked segment)
    (starts : ∀ segment ∈ segments.tail, StartsPlainly segment) :
    Legible (weave segments values) := by
  fun_induction weave segments values with
  | case1 => trivial
  | case2 segment values =>
    have last : Legible [] := trivial
    simpa using legible_rawChunk (unmarked segment List.mem_cons_self) last
  | case3 segment segments further later =>
    have tail := later (fun other member => unmarked other (List.mem_cons_of_mem _ member))
      (fun other member => starts other (List.mem_of_mem_tail member))
    exact legible_rawChunk (unmarked segment List.mem_cons_self) tail
  | case4 segment segments value values further later =>
    have tail := later (fun other member => unmarked other (List.mem_cons_of_mem _ member))
      (fun other member => starts other (List.mem_of_mem_tail member))
    exact legible_rawChunk (unmarked segment List.mem_cons_self)
      ⟨opens_weave segments values starts, tail⟩

theorem legible_template {text : String} {values : List Value} {fragment : Fragment}
    (apart : MarkedApart text.toList) (made : template text values = .ok fragment) :
    Legible fragment.chunks := by
  obtain ⟨-, rfl⟩ := template_eq_ok_iff.mp made
  obtain ⟨noDollar, starts⟩ := markedApart_iff.mp apart
  refine legible_weave _ _ (fun segment member => ?_) starts
  obtain ⟨free, inside⟩ := segment_of_mem_splitOn member
  exact ⟨free, fun dollar => noDollar (inside dollar)⟩

/-! Nodes -/

mutual

/-- No name and no raw text of the node contains the sign of a placeholder, and its templates have
no digit right behind a marker. -/
def NodeUnmarked : Expr → Prop
  | .compare field _ _ => Unmarked field.toList
  | .inList field _ _ => Unmarked field.toList
  | .like field _ => Unmarked field.toList
  | .isNull field _ => Unmarked field.toList
  | .not inner => NodeUnmarked inner
  | .group _ children => NodesUnmarked children
  | .raw text => Unmarked text.toList
  | .template text _ => MarkedApart text.toList
  | .columns names => ∀ name ∈ names, Unmarked name.toList
  | .orderBy terms => ∀ term ∈ terms, Unmarked term.column.toList

def NodesUnmarked : List Expr → Prop
  | [] => True
  | node :: rest => NodeUnmarked node ∧ NodesUnmarked rest

end

/-- Members that are legible one by one are legible as a list. -/
private theorem legible_members {nodes : List Expr} {fragments : List Fragment}
    (unmarked : NodesUnmarked nodes)
    (each : List.Forall₂ (fun node fragment => NodeUnmarked node → Legible fragment.chunks)
      nodes fragments) : ∀ fragment ∈ fragments, Legible fragment.chunks := by
  induction each with
  | nil => simp
  | cons head _ tail =>
    exact List.forall_mem_cons.mpr ⟨head unmarked.1, tail unmarked.2⟩

private theorem legible_raw {text : String} (plain : Unmarked text.toList) :
    Legible (Fragment.raw text).chunks := ⟨plain, trivial⟩

private theorem legible_behind {text : String} (plain : Unmarked text.toList) {body : Fragment}
    (legible : Legible body.chunks) : Legible (Fragment.raw text ++ body).chunks := by
  rw [chunks_append]
  exact ⟨plain, legible⟩

private theorem legible_value {text : String} (plain : Unmarked text.toList) (value : Value) :
    Legible (Fragment.raw text ++ Fragment.param value).chunks :=
  legible_behind plain ⟨trivial, trivial⟩

private theorem opens_comma (rest : List Chunk) : OpensPlainly (.raw "," :: rest) :=
  opens_of_leads (by simp [Leads]) rest

private theorem legible_paramList (values : List Value) : Legible (paramList values).chunks := by
  induction values with
  | nil => trivial
  | cons first rest later =>
    cases rest with
    | nil => exact ⟨trivial, trivial⟩
    | cons second others => exact ⟨opens_comma _, by simp [Unmarked], later⟩

private theorem legible_inList {field : String} (plain : Unmarked field.toList) (negated : Bool)
    (values : List Value) :
    Legible ((Fragment.raw (field ++ if negated then " NOT IN (" else " IN (")
      ++ paramList values).push (.raw ")")).chunks := by
  have keyword : Unmarked (if negated then " NOT IN (" else " IN (").toList := by
    cases negated <;> simp [Unmarked]
  have opening : Unmarked (field ++ if negated then " NOT IN (" else " IN (").toList := by
    rw [String.toList_append, unmarked_append]
    exact ⟨plain, keyword⟩
  have closing : Legible [.raw ")"] := ⟨by simp [Unmarked], trivial⟩
  have opens : OpensPlainly [.raw ")"] := opens_of_leads (by simp [Leads]) []
  exact legible_append (legible_behind opening (legible_paramList values)) closing opens

theorem legible_negate {inner : Fragment} (legible : Legible inner.chunks) :
    Legible (Expr.negate inner).chunks := by
  rw [Expr.negate]
  split
  · trivial
  · exact legible_behind (by simp [Unmarked]) (legible_parens legible)

theorem legible_connect (connective : Connective) {members : List Fragment}
    (each : ∀ member ∈ members, Legible member.chunks) :
    Legible (Expr.connect connective members).chunks := by
  have printing : ∀ member ∈ members.filter fun member => !member.isEmpty,
      Legible member.chunks := fun member inside => each member (List.mem_of_mem_filter inside)
  have joined := legible_join (separates_connective connective) printing
  simp only [Expr.connect]
  split
  · exact legible_parens joined
  · exact joined

private theorem unmarked_symbol (op : Comparison) : Unmarked op.symbol.toList := by
  cases op <;> simp [Unmarked, Comparison.symbol]

private theorem unmarked_keyword (direction : SortDirection) :
    Unmarked direction.keyword.toList := by
  cases direction <;> simp [Unmarked, SortDirection.keyword]

private theorem legible_texts {texts : List String} (plain : ∀ text ∈ texts, Unmarked text.toList) :
    Legible (join ", " (texts.map Fragment.raw)).chunks := by
  refine legible_join separates_comma fun fragment member => ?_
  obtain ⟨text, inside, rfl⟩ := List.mem_map.mp member
  exact legible_raw (plain text inside)

/-- A node without signs of placeholders renders to legible chunks. -/
theorem legible_of_render {node : Expr} {fragment : Fragment}
    (rendered : node.render = .ok fragment) : NodeUnmarked node → Legible fragment.chunks := by
  refine Expr.render_induct ?compare ?inList ?like ?isNull ?not ?group ?raw ?template ?columns
    ?orderBy rendered
  case compare =>
    intro field op value plain
    refine legible_value ?_ value
    simp only [String.toList_append, unmarked_append]
    exact ⟨⟨⟨plain, by simp [Unmarked]⟩, unmarked_symbol op⟩, by simp [Unmarked]⟩
  case inList => exact fun _ values negated _ plain => legible_inList plain negated values
  case like =>
    intro field pattern plain
    refine legible_value ?_ pattern
    rw [String.toList_append, unmarked_append]
    exact ⟨plain, by simp [Unmarked]⟩
  case isNull =>
    intro field negated plain
    refine legible_raw ?_
    rw [String.toList_append, unmarked_append]
    exact ⟨plain, by cases negated <;> simp [Unmarked]⟩
  case not => exact fun _ _ within plain => legible_negate (within plain)
  case group =>
    intro connective children fragments nonempty within plain
    exact legible_connect connective (legible_members plain within)
  case raw => exact fun _ plain => legible_raw plain
  case template => exact fun _ _ _ made apart => legible_template apart made
  case columns => exact fun _ plain => legible_texts plain
  case orderBy =>
    intro terms plain
    have texts : ∀ text ∈ terms.map SortTerm.text, Unmarked text.toList := by
      intro text member
      obtain ⟨term, inside, rfl⟩ := List.mem_map.mp member
      simp only [SortTerm.text, String.toList_append, unmarked_append]
      exact ⟨⟨plain term inside, by simp [Unmarked]⟩, unmarked_keyword term.direction⟩
    have joined := legible_texts texts
    rw [List.map_map] at joined
    exact joined

theorem legible_of_renderJoined {separator : String} (separates : Separates separator)
    {nodes : List Expr} {fragment : Fragment} (unmarked : NodesUnmarked nodes)
    (rendered : Expr.renderJoined separator nodes = .ok fragment) : Legible fragment.chunks := by
  obtain ⟨fragments, each, rfl⟩ := Expr.renderJoined_eq_ok_iff.mp rendered
  exact legible_join separates
    (legible_members unmarked (each.imp fun _ _ => legible_of_render))

/-! Statements -/

/-- No name and no raw text of the statement contains the sign of a placeholder. -/
structure StatementUnmarked (select : Select) : Prop where
  columns : NodesUnmarked select.columns
  source : ∀ text ∈ select.source, Unmarked text.toList
  joins : NodesUnmarked select.joins
  conditions : NodesUnmarked select.conditions
  groups : ∀ name ∈ select.groups, Unmarked name.toList
  having : NodesUnmarked select.having
  ordering : NodesUnmarked select.ordering

/-- A part of a statement behind others: legible, and no digit at its start. -/
private structure Follows (fragment : Fragment) : Prop where
  legible : Legible fragment.chunks
  opens : OpensPlainly fragment.chunks

private theorem legible_before {first second : Fragment} (before : Legible first.chunks)
    (after : Follows second) : Legible (first ++ second).chunks := by
  rw [chunks_append]
  exact legible_append before after.legible after.opens

private theorem follows_clause {keyword : String} (separates : Separates keyword)
    {body : Fragment} (legible : Legible body.chunks) : Follows (Select.clause keyword body) := by
  rw [Select.clause]
  split
  · exact ⟨trivial, trivial⟩
  · refine ⟨legible_behind separates.unmarked legible, ?_⟩
    rw [chunks_append]
    exact separates.opens _

private theorem unmarked_intercalate {separator : List Char} (apart : Unmarked separator)
    {parts : List (List Char)} (plain : ∀ part ∈ parts, Unmarked part) :
    Unmarked (separator.intercalate parts) := by
  induction parts with
  | nil => simp [Unmarked]
  | cons first rest later =>
    have tail := later fun part member => plain part (List.mem_cons_of_mem _ member)
    cases rest with
    | nil => simpa using plain first List.mem_cons_self
    | cons second others =>
      rw [List.intercalate_cons_cons, unmarked_append, unmarked_append]
      exact ⟨⟨plain first List.mem_cons_self, apart⟩, tail⟩

private theorem follows_raw {text : String} (leads : Leads text.toList)
    (plain : Unmarked text.toList) : Follows (Fragment.raw text) :=
  ⟨legible_raw plain, opens_of_leads leads []⟩

private theorem follows_groups {names : List String}
    (plain : ∀ name ∈ names, Unmarked name.toList) : Follows (Select.groupClause names) := by
  rw [Select.groupClause]
  split
  · exact ⟨trivial, trivial⟩
  · refine follows_raw (by simp [Leads]) ?_
    rw [String.toList_append, unmarked_append, String.toList_intercalate]
    refine ⟨by simp [Unmarked], unmarked_intercalate (by simp [Unmarked]) fun part member => ?_⟩
    obtain ⟨name, listed, rfl⟩ := List.mem_map.mp member
    exact plain name listed

private theorem follows_number {keyword : String} (leads : Leads keyword.toList)
    (plain : Unmarked keyword.toList) (number : Option UInt64) :
    Follows (Select.numberClause keyword number) := by
  cases number with
  | none => exact ⟨trivial, trivial⟩
  | some number =>
    refine follows_raw ?_ ?_
    · rw [String.toList_append]
      exact leads_append leads _
    · rw [String.toList_append, unmarked_append]
      exact ⟨plain, by simpa [Text.natural] using unmarked_decimal number.toNat⟩

/-- A statement without signs of placeholders renders to legible chunks. -/
theorem legible_statement {select : Select} {fragment : Fragment}
    (unmarked : StatementUnmarked select) (rendered : select.render = .ok fragment) :
    Legible fragment.chunks := by
  obtain ⟨clauses, ready, rfl⟩ := Select.render_eq_ok_iff.mp rendered
  have columns := legible_of_renderJoined separates_comma unmarked.columns ready.columns
  have joins := legible_of_renderJoined separates_space unmarked.joins ready.joins
  have conditions := legible_of_renderJoined separates_and unmarked.conditions ready.conditions
  have having := legible_of_renderJoined separates_and unmarked.having ready.having
  have ordering := legible_of_renderJoined separates_comma unmarked.ordering ready.ordering
  have source : Unmarked (select.source.getD "").toList := by
    cases given : select.source with
    | none => simp [Unmarked]
    | some text => exact unmarked.source text given
  have opening : Unmarked select.opening.toList := by
    rw [Select.opening]
    split <;> simp [Unmarked]
  have body := legible_behind opening columns
  have keyword : ∀ {word : String}, Leads word.toList → Unmarked word.toList → Separates word :=
    fun leads plain => ⟨plain, opens_of_leads leads⟩
  refine legible_before (legible_before (legible_before (legible_before (legible_before
    (legible_before (legible_before (legible_before body ?_) ?_) ?_) ?_) ?_) ?_) ?_) ?_
  · exact follows_clause (keyword (by simp [Leads]) (by simp [Unmarked]))
      (legible_raw source)
  · exact follows_clause separates_space joins
  · exact follows_clause (keyword (by simp [Leads]) (by simp [Unmarked]))
      conditions
  · exact follows_groups unmarked.groups
  · exact follows_clause (keyword (by simp [Leads]) (by simp [Unmarked]))
      having
  · exact follows_clause (keyword (by simp [Leads]) (by simp [Unmarked]))
      ordering
  · exact follows_number (by simp [Leads]) (by simp [Unmarked]) select.limit
  · exact follows_number (by simp [Leads]) (by simp [Unmarked]) select.offset

/-! Reading the placeholders of legible chunks -/

private theorem count_unmarked {text : List Char} (plain : Unmarked text) : text.count '?' = 0 :=
  List.count_eq_zero.mpr plain.1

/-- Text without dollar signs is passed over. -/
theorem numbersRead_append {before : List Char} (noDollar : '$' ∉ before) (after : List Char) :
    numbersRead (before ++ after) = numbersRead after := by
  induction before with
  | nil => rfl
  | cons c rest later =>
    have different : c ≠ '$' := fun same => noDollar (same ▸ List.mem_cons_self)
    rw [List.cons_append, numbersRead, if_neg different]
    exact later fun member => noDollar (List.mem_cons_of_mem _ member)

/-- Text without question marks is kept. -/
theorem numberMarks_append (position : Nat) {before : List Char} (noMark : '?' ∉ before)
    (after : List Char) :
    numberMarks position (before ++ after) = before ++ numberMarks position after := by
  induction before with
  | nil => rfl
  | cons c rest later =>
    have different : c ≠ '?' := fun same => noMark (same ▸ List.mem_cons_self)
    rw [List.cons_append, numberMarks, if_neg different, List.cons_append]
    exact congrArg (c :: ·) (later fun member => noMark (List.mem_cons_of_mem _ member))

theorem takeWhile_eq_nil_iff {text : List Char} :
    text.takeWhile Char.isDigit = [] ↔ StartsPlainly text := by
  cases text with
  | nil => simp [StartsPlainly]
  | cons c rest => cases digit : c.isDigit <;> simp [StartsPlainly, digit]

/-- A numbered placeholder is read together with the digits that follow it. -/
theorem numbersRead_placeholder (position : Nat) (rest : List Char) :
    numbersRead ('$' :: Text.decimal position ++ rest) =
      (Text.decimal position ++ rest.takeWhile Char.isDigit) :: numbersRead rest := by
  rw [List.cons_append, numbersRead, if_pos rfl, numbersRead_append (unmarked_decimal position).2,
    List.takeWhile_append_of_pos (Text.isDigit_of_mem_decimal position)]

theorem placeholder_toList_postgresql (position : Nat) :
    (Dialect.postgresql.placeholder position).toList = '$' :: Text.decimal position := by
  simp [Dialect.placeholder, Dialect.numbered, Text.natural]

/-- Chunks that open plainly print no digit first, in whatever dialect. -/
private theorem starts_of_opens (dialect : Dialect) (position : Nat) {chunks : List Chunk}
    (opens : OpensPlainly chunks) : StartsPlainly (textFrom dialect position chunks).toList := by
  induction chunks with
  | nil => simp [textFrom, StartsPlainly]
  | cons chunk rest later =>
    cases chunk with
    | raw text =>
      simp only [textFrom, String.toList_append]
      cases spelling : text.toList with
      | nil => exact later (opens.2 spelling)
      | cons c tail => simpa [StartsPlainly, spelling] using opens.1
    | param value =>
      simp only [textFrom, String.toList_append]
      cases dialect <;> simp [StartsPlainly, Dialect.placeholder, Dialect.numbered]

private theorem count_marks {chunks : List Chunk} (legible : Legible chunks) :
    (marked chunks).count '?' = (paramsOf chunks).length := by
  induction chunks with
  | nil => rfl
  | cons chunk rest later =>
    cases chunk with
    | raw text =>
      rw [marked, List.count_append, count_unmarked legible.1, later legible.2, paramsOf,
        Nat.zero_add]
    | param value => rw [marked, List.count_cons_self, later legible.2, paramsOf, List.length_cons]

/-- Where no raw text contains a question mark, those of the plain text are the placeholders. -/
theorem numberMarks_of_free (position : Nat) {chunks : List Chunk}
    (free : ∀ text, .raw text ∈ chunks → '?' ∉ text.toList) :
    numberMarks position (marked chunks) = (textFrom .postgresql position chunks).toList := by
  induction chunks generalizing position with
  | nil => rfl
  | cons chunk rest later =>
    have others : ∀ text, .raw text ∈ rest → '?' ∉ text.toList :=
      fun text member => free text (List.mem_cons_of_mem _ member)
    cases chunk with
    | raw text =>
      have own := free text List.mem_cons_self
      rw [marked, numberMarks_append position own, later position others, textFrom,
        String.toList_append]
    | param value =>
      rw [marked, numberMarks, if_pos rfl, later (position + 1) others, textFrom,
        String.toList_append, placeholder_toList_postgresql]

private theorem unmarked_of_legible {chunks : List Chunk} (legible : Legible chunks)
    {text : String} (member : .raw text ∈ chunks) : Unmarked text.toList := by
  induction chunks with
  | nil => cases member
  | cons chunk rest later =>
    rcases List.mem_cons.mp member with rfl | behind
    · exact legible.1
    · cases chunk with
      | raw other => exact later legible.2 behind
      | param value => exact later legible.2 behind

private theorem numberMarks_marked (position : Nat) {chunks : List Chunk}
    (legible : Legible chunks) :
    numberMarks position (marked chunks) = (textFrom .postgresql position chunks).toList :=
  numberMarks_of_free position fun _ member => (unmarked_of_legible legible member).1

private theorem numbersRead_textFrom (position : Nat) {chunks : List Chunk}
    (legible : Legible chunks) :
    numbersRead (textFrom .postgresql position chunks).toList =
      (List.range' position (paramsOf chunks).length).map Text.decimal := by
  induction chunks generalizing position with
  | nil => rfl
  | cons chunk rest later =>
    cases chunk with
    | raw text =>
      simp only [textFrom, String.toList_append, paramsOf]
      rw [numbersRead_append legible.1.2, later position legible.2]
    | param value =>
      have stops := takeWhile_eq_nil_iff.mpr (starts_of_opens .postgresql (position + 1) legible.1)
      simp only [textFrom, String.toList_append, placeholder_toList_postgresql, paramsOf]
      rw [numbersRead_placeholder, stops, List.append_nil, later (position + 1) legible.2,
        List.length_cons, List.range'_succ, List.map_cons]

private theorem unmarked_numbered (position : Nat) {chunks : List Chunk}
    (legible : Legible chunks) : '?' ∉ (textFrom .postgresql position chunks).toList := by
  induction chunks generalizing position with
  | nil => simp [textFrom]
  | cons chunk rest later =>
    cases chunk with
    | raw text => simp [textFrom, legible.1.1, later position legible.2]
    | param value =>
      simp [textFrom, placeholder_toList_postgresql, (unmarked_decimal position).1,
        later (position + 1) legible.2]

/-- Whenever a statement without signs of placeholders in its texts renders, every dialect binds
the same values. The dialects with plain placeholders share one text with one question mark for
each value; the numbered text has `$1`, `$2` and so on in order and no question mark, and is the
plain text with its question marks numbered. -/
theorem placeholders_match_values {select : Select} {fragment : Fragment}
    (unmarked : StatementUnmarked select) (rendered : select.render = .ok fragment) :
    ∃ plain numbered : String,
      select.build .sqlite = .ok ⟨plain, fragment.params⟩ ∧
      select.build .mysql = .ok ⟨plain, fragment.params⟩ ∧
      select.build .postgresql = .ok ⟨numbered, fragment.params⟩ ∧
      plain.toList.count '?' = fragment.paramCount ∧
      numbersRead numbered.toList = (List.range' 1 fragment.paramCount).map Text.decimal ∧
      '?' ∉ numbered.toList ∧
      numberMarks 1 plain.toList = numbered.toList := by
  have legible := legible_statement unmarked rendered
  have built : ∀ dialect, select.build dialect =
      .ok ⟨fragment.text dialect, fragment.params⟩ := by
    intro dialect
    rw [Select.build_eq, rendered]
    rfl
  have sqlite : fragment.text .sqlite = String.ofList (marked fragment.chunks) :=
    text_of_plain rfl fragment
  have mysql : fragment.text .mysql = String.ofList (marked fragment.chunks) :=
    text_of_plain rfl fragment
  refine ⟨String.ofList (marked fragment.chunks), textFrom .postgresql 1 fragment.chunks, ?_, ?_,
    ?_, ?_, numbersRead_textFrom 1 legible, unmarked_numbered 1 legible, ?_⟩
  · rw [built .sqlite, sqlite]
  · rw [built .mysql, mysql]
  · rw [built .postgresql, text_eq_textFrom]
  · rw [String.toList_ofList, count_marks legible]
    rfl
  · rw [String.toList_ofList, numberMarks_marked 1 legible]

/-- Adjacent markers, a negated list and a blank member, with signs of placeholders in values. -/
def nested : Select where
  columns := [.columns ["id", ""]]
  source := some "t"
  conditions := [.group .or [.raw "", .not (.inList "id" [.text "$9", .text "?"] true)],
    .template "x = ??" [.null, .integer 3]]
  limit := some 10

def nestedBody : Fragment where
  chunks := [.raw "SELECT ", .raw "id", .raw " FROM ", .raw "t", .raw " WHERE ", .raw "NOT ",
    .raw "(", .raw "id NOT IN (", .param (.text "$9"), .raw ",", .param (.text "?"), .raw ")",
    .raw ")", .raw " AND ", .raw "x = ", .param .null, .param (.integer 3)]

theorem nested_placeholders_match :
    StatementUnmarked nested ∧ nested.render = .ok (nestedBody ++ Fragment.raw " LIMIT 10") ∧
      ∃ plain numbered : String,
        nested.build .sqlite = .ok ⟨plain, [.text "$9", .text "?", .null, .integer 3]⟩ ∧
        nested.build .postgresql = .ok ⟨numbered, [.text "$9", .text "?", .null, .integer 3]⟩ ∧
        plain.toList.count '?' = 4 ∧
        numbersRead numbered.toList = [['1'], ['2'], ['3'], ['4']] := by
  have unmarked : StatementUnmarked nested := by
    constructor <;> simp [nested, NodesUnmarked, NodeUnmarked, Unmarked, MarkedApart, StartsPlainly]
  have digits : Text.natural 10 = "10" := by simp [Text.natural, Text.decimal, Text.digitChar]
  have limit : Select.numberClause " LIMIT " (some 10) = Fragment.raw " LIMIT 10" := by
    simp [Select.numberClause, digits]
  have rendered : nested.render = .ok (nestedBody ++ Fragment.raw " LIMIT 10") := by
    rw [← limit]
    rfl
  obtain ⟨plain, numbered, sqlite, -, postgresql, count, read, -, -⟩ :=
    placeholders_match_values unmarked rendered
  refine ⟨unmarked, rendered, plain, numbered, sqlite, postgresql, count, read.trans ?_⟩
  have four : (nestedBody ++ Fragment.raw " LIMIT 10").paramCount = 4 := rfl
  rw [four]
  simp [List.range', Text.decimal, Text.digitChar]

end QueryGate.PlaceholderNumbering
