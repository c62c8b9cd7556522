import QueryGate.Proofs.ConditionReading
import QueryGate.Proofs.RenderingProofs

/-! Rendered conditions as the grammar reads them. Every atom is read as itself, a negation and a
parenthesised condition are primaries, and joined members are read as their join. -/
namespace QueryGate.ConditionGrammar
open Fragment

/-- Pieces put in front of the current level. -/
def push (pieces : List Piece) (levels : Levels) : Levels :=
  ⟨pieces ++ levels.current, levels.outer⟩

/-- Before any text that does not cling to them, the chunks are read as the pieces. -/
def Shows (chunks : List Chunk) (pieces : List Piece) : Prop :=
  ∀ rest values, Apart rest →
    scan (marked chunks ++ rest) (paramsOf chunks ++ values) = push pieces (scan rest values)

private theorem push_push (first second : List Piece) (levels : Levels) :
    push first (push second levels) = push (first ++ second) levels := by
  simp [push]

theorem shows_append {first second : List Chunk} {pieces others : List Piece}
    (before : Shows first pieces) (after : Shows second others)
    (apart : ∀ rest, Apart rest → Apart (marked second ++ rest)) :
    Shows (first ++ second) (pieces ++ others) := by
  intro rest values boundary
  rw [marked_append, paramsOf_append, List.append_assoc, List.append_assoc,
    before _ _ (apart rest boundary), after rest values boundary, push_push]

/-! Words -/

/-- Keywords with a space before each. -/
def spelled (keywords : List Keyword) : List Char :=
  keywords.flatMap fun keyword => ' ' :: keyword.text.toList

private theorem apart_spelled (keywords : List Keyword) {rest : List Char} (apart : Apart rest) :
    Apart (spelled keywords ++ rest) := by
  cases keywords with
  | nil => exact apart
  | cons first others => exact apart_space _

/-- Spelled keywords are read as themselves. -/
theorem scan_spelled (keywords : List Keyword) {rest : List Char} (apart : Apart rest)
    (values : List Value) :
    scan (spelled keywords ++ rest) values =
      push (keywords.map fun keyword => .token (.keyword keyword)) (scan rest values) := by
  induction keywords with
  | nil => rfl
  | cons first others later =>
    have spelt : spelled (first :: others) ++ rest =
        ' ' :: (first.text.toList ++ (spelled others ++ rest)) := by
      simp [spelled]
    rw [spelt, scan_space, scan_keyword first (apart_spelled others apart), later]
    rfl

/-- A field and the keywords behind it are read as themselves. -/
private theorem scan_phrase {field : String} (named : FieldName field) (keywords : List Keyword)
    {rest : List Char} (apart : Apart rest) (values : List Value) :
    scan (field.toList ++ (spelled keywords ++ rest)) values =
      push (.token (.name field) :: keywords.map fun keyword => .token (.keyword keyword))
        (scan rest values) := by
  rw [scan_field named (apart_spelled keywords apart), scan_spelled keywords apart]
  rfl

private theorem scan_connective (connective : Connective) (rest : List Char)
    (values : List Value) :
    scan (connective.separator.toList ++ rest) values =
      push [separator connective] (scan rest values) := by
  cases connective with
  | and =>
    have spelt : Connective.and.separator.toList ++ rest = spelled [.and] ++ ' ' :: rest := by
      simp [Connective.separator, spelled, Keyword.text]
    rw [spelt, scan_spelled [.and] (apart_space rest), scan_space]
    rfl
  | or =>
    have spelt : Connective.or.separator.toList ++ rest = spelled [.or] ++ ' ' :: rest := by
      simp [Connective.separator, spelled, Keyword.text]
    rw [spelt, scan_spelled [.or] (apart_space rest), scan_space]
    rfl

/-! Parentheses -/

/-- What stands between parentheses becomes one piece. -/
private theorem scan_enclosed {chunks : List Chunk} {pieces : List Piece}
    (shows : Shows chunks pieces) (rest : List Char) (values : List Value) :
    scan ('(' :: (marked chunks ++ ')' :: rest)) (paramsOf chunks ++ values) =
      push [enclosed pieces] (scan rest values) := by
  rw [scan_opening, shows _ values (apart_closing rest), scan_closing]
  simp [nest, push]

theorem shows_parens {fragment : Fragment} {pieces : List Piece}
    (shows : Shows fragment.chunks pieces) : Shows fragment.parens.chunks [enclosed pieces] := by
  intro rest values _
  have spelt : marked fragment.parens.chunks ++ rest =
      '(' :: (marked fragment.chunks ++ ')' :: rest) := by
    simp [marked, marked_append]
  have same : paramsOf fragment.parens.chunks = paramsOf fragment.chunks := params_parens fragment
  rw [spelt, same, scan_enclosed shows]

theorem shows_negated {fragment : Fragment} {pieces : List Piece}
    (shows : Shows fragment.chunks pieces) :
    Shows (Fragment.raw "NOT " ++ fragment.parens).chunks
      [.token (.keyword .not), enclosed pieces] := by
  intro rest values apart
  have spelt : marked (Fragment.raw "NOT " ++ fragment.parens).chunks ++ rest =
      Keyword.not.text.toList ++ ' ' :: (marked fragment.parens.chunks ++ rest) := by
    simp [marked, Keyword.text]
  have same : paramsOf (Fragment.raw "NOT " ++ fragment.parens).chunks =
      paramsOf fragment.parens.chunks := by
    rw [chunks_append, chunks_raw, List.singleton_append, paramsOf]
  rw [spelt, same, scan_keyword .not (apart_space _), scan_space,
    shows_parens shows rest values apart]
  rfl

/-- The pieces of values with commas between them. -/
def valuePieces (values : List Value) : List Piece :=
  (values.map fun value => .token (.value value)).intersperse (.token .comma)

private theorem shows_paramList (values : List Value) :
    Shows (paramList values).chunks (valuePieces values) := by
  induction values with
  | nil => exact fun _ _ _ => rfl
  | cons first rest later =>
    cases rest with
    | nil => exact fun rest values _ => scan_mark rest first values
    | cons second others =>
      intro rest values apart
      have spelt : marked (paramList (first :: second :: others)).chunks ++ rest =
          '?' :: ',' :: (marked (paramList (second :: others)).chunks ++ rest) := by
        simp [paramList, marked]
      have held : paramsOf (paramList (first :: second :: others)).chunks =
          first :: paramsOf (paramList (second :: others)).chunks := rfl
      rw [spelt, held, List.cons_append, scan_mark, scan_comma, later rest values apart]
      rfl

private theorem values_valuePieces {values : List Value} (nonempty : values ≠ []) :
    values? (valuePieces values) = .some values := by
  induction values with
  | nil => exact absurd rfl nonempty
  | cons first rest later =>
    cases rest with
    | nil => rfl
    | cons second others =>
      have tail := later (List.cons_ne_nil second others)
      exact congrArg (Option.map (first :: ·)) tail

private theorem unseparated_valuePieces (values : List Value) :
    Unseparated (valuePieces values) := by
  induction values with
  | nil => simp [Unseparated, valuePieces]
  | cons first rest later =>
    cases rest with
    | nil =>
      intro piece member connective
      cases List.mem_singleton.mp member
      cases connective <;> rfl
    | cons second others =>
      intro piece member connective
      rcases List.mem_cons.mp member with rfl | behind
      · cases connective <;> rfl
      · rcases List.mem_cons.mp behind with rfl | further
        · cases connective <;> rfl
        · exact later piece further connective

/-- Values between parentheses are a list of values, and no condition. -/
private theorem enclosed_valuePieces {values : List Value} (nonempty : values ≠ []) :
    enclosed (valuePieces values) = .values values := by
  have unread : condition? (valuePieces values) = none := by
    rw [condition_single (unseparated_valuePieces values)]
    match values, nonempty with
    | [_], _ => rfl
    | _ :: _ :: _, _ => rfl
  rw [enclosed, unread, values_valuePieces nonempty]

/-! Atoms and negations -/

/-- The fragment is read as the formula wherever an AND-list may have a member. -/
def Reads (fragment : Fragment) (formula : Formula) : Prop :=
  ∃ pieces, Shows fragment.chunks pieces ∧ Member pieces formula

theorem member_of_read {pieces : List Piece} {formula : Formula}
    (apart : ∀ piece ∈ pieces, separates .and piece = false ∧ separates .or piece = false)
    (read : negation? pieces = some formula) : Member pieces formula := by
  refine ⟨fun piece inside connective => ?_, read⟩
  cases connective with
  | and => exact (apart piece inside).1
  | or => exact (apart piece inside).2

theorem reads_compare {field : String} (named : FieldName field) (op : Comparison)
    (value : Value) :
    Reads (Fragment.raw (field ++ " " ++ op.symbol ++ " ") ++ Fragment.param value)
      (.atom (.compare field op value)) := by
  refine ⟨[.token (.name field), .token (.comparison op), .token (.value value)], ?_,
    member_of_read (by simp [separates]) rfl⟩
  intro rest values _
  have spelt : marked (Fragment.raw (field ++ " " ++ op.symbol ++ " ")
      ++ Fragment.param value).chunks ++ rest =
      field.toList ++ ' ' :: (op.symbol.toList ++ ' ' :: '?' :: rest) := by
    simp [marked]
  have marks := scan_mark rest value values
  rw [spelt, scan_field named (apart_space _), scan_space, scan_comparison op (apart_space _),
    scan_space]
  exact congrArg (fun levels => nest (.name field) (nest (.comparison op) levels)) marks

theorem reads_like {field : String} (named : FieldName field) (pattern : Value) :
    Reads (Fragment.raw (field ++ " LIKE ") ++ Fragment.param pattern)
      (.atom (.like field pattern)) := by
  refine ⟨[.token (.name field), .token (.keyword .like), .token (.value pattern)], ?_,
    member_of_read (by simp [separates]) rfl⟩
  intro rest values _
  have spelt : marked (Fragment.raw (field ++ " LIKE ") ++ Fragment.param pattern).chunks ++ rest =
      field.toList ++ (spelled [.like] ++ ' ' :: '?' :: rest) := by
    simp [marked, spelled, Keyword.text]
  have marks := scan_mark rest pattern values
  rw [spelt, scan_phrase named [.like] (apart_space _), scan_space]
  exact congrArg (push [.token (.name field), .token (.keyword .like)]) marks

theorem reads_isNull {field : String} (named : FieldName field) (negated : Bool) :
    Reads (Fragment.raw (field ++ if negated then " IS NOT NULL" else " IS NULL"))
      (.atom (.isNull field negated)) := by
  let keywords : List Keyword := if negated then [.is, .not, .null] else [.is, .null]
  refine ⟨.token (.name field) :: keywords.map fun keyword => .token (.keyword keyword), ?_, ?_⟩
  · intro rest values apart
    have spelt : marked (Fragment.raw (field ++ if negated then " IS NOT NULL"
        else " IS NULL")).chunks ++ rest = field.toList ++ (spelled keywords ++ rest) := by
      cases negated <;> simp [keywords, marked, spelled, Keyword.text]
    rw [spelt, scan_phrase named keywords apart]
    rfl
  · cases negated with
    | false => exact member_of_read (by simp [keywords, separates]) rfl
    | true => exact member_of_read (by simp [keywords, separates]) rfl

theorem reads_inList {field : String} (named : FieldName field) {values : List Value}
    (nonempty : values ≠ []) (negated : Bool) :
    Reads ((Fragment.raw (field ++ if negated then " NOT IN (" else " IN (")
        ++ paramList values).push (.raw ")")) (.atom (.inList field values negated)) := by
  let keywords : List Keyword := if negated then [.not, .among] else [.among]
  refine ⟨.token (.name field) :: (keywords.map fun keyword => .token (.keyword keyword))
    ++ [.values values], ?_, ?_⟩
  · intro rest others _
    have spelt : marked ((Fragment.raw (field ++ if negated then " NOT IN (" else " IN (")
        ++ paramList values).push (.raw ")")).chunks ++ rest = field.toList ++
        (spelled keywords ++ ' ' :: '(' :: (marked (paramList values).chunks ++ ')' :: rest)) := by
      cases negated <;> simp [keywords, Fragment.push, marked, marked_append, spelled, Keyword.text]
    have held : paramsOf ((Fragment.raw (field ++ if negated then " NOT IN (" else " IN (")
        ++ paramList values).push (.raw ")")).chunks = paramsOf (paramList values).chunks := by
      simp [Fragment.push, paramsOf, paramsOf_append]
    rw [spelt, held, scan_phrase named keywords (apart_space _), scan_space,
      scan_enclosed (shows_paramList values), enclosed_valuePieces nonempty, push_push]
  · cases negated with
    | false => exact member_of_read (by simp [keywords, separates]) rfl
    | true => exact member_of_read (by simp [keywords, separates]) rfl

/-- A condition between parentheses is a primary, whatever it is. -/
theorem enclosed_condition {pieces : List Piece} {formula : Formula}
    (read : condition? pieces = some formula) : enclosed pieces = .condition formula := by
  rw [enclosed, read]

theorem reads_negate {fragment : Fragment} {formula : Formula} (reads : Reads fragment formula) :
    Reads (Fragment.raw "NOT " ++ fragment.parens) (.not formula) := by
  obtain ⟨pieces, shows, member⟩ := reads
  have read : condition? pieces = some formula := by
    rw [condition_single member.unseparated, member.read]
  refine ⟨_, shows_negated shows, ?_⟩
  rw [enclosed_condition read]
  exact member_of_read (by simp [separates]) rfl

/-! Joined members -/

private theorem shows_separator (connective : Connective) {chunks : List Chunk}
    {pieces : List Piece} (shows : Shows chunks pieces) :
    Shows (.raw connective.separator :: chunks) (separator connective :: pieces) := by
  intro rest values apart
  rw [marked, paramsOf, List.append_assoc, scan_connective, shows rest values apart, push_push]
  rfl

private theorem apart_separator (connective : Connective) (rest : List Char) :
    Apart (connective.separator.toList ++ rest) := by
  cases connective with
  | and => exact apart_space _
  | or => exact apart_space _

private theorem shows_joined (connective : Connective) {fragments : List Fragment}
    {formulas : List Formula} (each : List.Forall₂ Reads fragments formulas) :
    ∃ parts, List.Forall₂ Member parts formulas ∧
      Shows ([Chunk.raw connective.separator].intercalate (fragments.map Fragment.chunks))
        ([separator connective].intercalate parts) := by
  induction each with
  | nil => exact ⟨[], .nil, fun _ _ _ => rfl⟩
  | @cons fragment formula fragments formulas head tail later =>
    obtain ⟨pieces, shows, member⟩ := head
    obtain ⟨parts, members, others⟩ := later
    refine ⟨pieces :: parts, .cons member members, ?_⟩
    cases tail with
    | nil =>
      cases members
      simpa using shows
    | cons second further =>
      cases members with
      | cons next rest =>
        rw [List.map_cons, List.map_cons, List.intercalate_cons_cons,
          List.intercalate_cons_cons, List.append_assoc, List.append_assoc]
        refine shows_append shows (shows_separator connective others) fun rest _ => ?_
        rw [List.singleton_append, marked, List.append_assoc]
        exact apart_separator connective _

/-- The join of fragments that print is read as the join of their formulas. -/
theorem condition_of_join (connective : Connective) {fragments : List Fragment}
    {formulas : List Formula} (nonempty : fragments ≠ [])
    (each : List.Forall₂ Reads fragments formulas) :
    ∃ pieces,
      Shows ([Chunk.raw connective.separator].intercalate (fragments.map Fragment.chunks)) pieces ∧
      condition? pieces = joinAll? (.join connective) formulas := by
  obtain ⟨parts, members, shows⟩ := shows_joined connective each
  have parted : parts ≠ [] := by
    rintro rfl
    cases members
    cases each
    exact nonempty rfl
  exact ⟨_, shows, condition_joined connective parted members⟩

/-- A fragment alone is parsed as what its pieces are read as. -/
theorem parse_of_shows {fragment : Fragment} {pieces : List Piece} {formula : Formula}
    (shows : Shows fragment.chunks pieces) (read : condition? pieces = some formula)
    {dialect : Dialect} (plain : dialect.numbered = false) :
    parse (fragment.text dialect) fragment.params = some formula := by
  have alone := shows [] [] apart_nil
  rw [List.append_nil, List.append_nil, scan_nil] at alone
  rw [parse, text_of_plain plain, String.toList_ofList, params, alone, push, List.append_nil]
  exact read

end QueryGate.ConditionGrammar
