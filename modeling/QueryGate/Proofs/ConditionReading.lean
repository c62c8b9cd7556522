import QueryGate.Proofs.ConditionGrammar

/-! How the grammar reads texts piece by piece. A lexeme that does not cling to what follows adds
its token, tokens add their pieces to the level they stand on, and joined members are split where
they were joined. -/
namespace QueryGate.ConditionGrammar

/-! Lexemes -/

/-- The first character, if there is one, clings to nothing before it. -/
def Apart (text : List Char) : Prop := ∀ d ∈ text.head?, ∀ c, clings c d = false

theorem apart_nil : Apart [] := by simp [Apart]

private theorem apart_cons {d : Char} (word : isWord d = false) (sign : isSign d = false)
    (rest : List Char) : Apart (d :: rest) := by
  intro other first c
  cases first
  simp [clings, word, sign]

theorem apart_space (rest : List Char) : Apart (' ' :: rest) := apart_cons rfl rfl rest

theorem apart_closing (rest : List Char) : Apart (')' :: rest) := apart_cons rfl rfl rest

private theorem lexemes_single {c : Char} {rest : List Char}
    (loose : ∀ d, clings c d = false) : lexemes (c :: rest) = [c] :: lexemes rest := by
  have cut : ∀ last ∈ [c].getLast?, ∀ d ∈ rest.head?, clings last d = false := by
    intro last same d _
    cases same
    exact loose d
  exact List.splitBy_append cut

private theorem lexemes_run {run rest : List Char} (nonempty : run ≠ [])
    (chain : run.IsChain fun c d => clings c d = true) (apart : Apart rest) :
    lexemes (run ++ rest) = run :: lexemes rest := by
  have cut : ∀ last ∈ run.getLast?, ∀ d ∈ rest.head?, clings last d = false :=
    fun last _ d first => apart d first last
  rw [lexemes, List.splitBy_append cut, List.splitBy_of_isChain nonempty chain]
  rfl

/-! Scanning -/

theorem scan_nil : scan [] [] = ⟨[], []⟩ := rfl

/-- A space is passed over. -/
theorem scan_space (rest : List Char) (values : List Value) :
    scan (' ' :: rest) values = scan rest values := by
  rw [scan, lexemes_single fun d => rfl]
  rfl

/-- A question mark takes the next value. -/
theorem scan_mark (rest : List Char) (value : Value) (values : List Value) :
    scan ('?' :: rest) (value :: values) = nest (.value value) (scan rest values) := by
  rw [scan, lexemes_single fun d => rfl]
  rfl

private theorem scan_lexeme {lexeme rest : List Char} {values : List Value}
    (cut : lexemes (lexeme ++ rest) = lexeme :: lexemes rest) (visible : lexeme ≠ [' '])
    (fixed : lexeme ≠ ['?']) :
    scan (lexeme ++ rest) values = nest (tokenOf lexeme) (scan rest values) := by
  rw [scan, cut, tokens.eq_def]
  simp only [if_neg visible, if_neg fixed]
  rfl

/-- A run of word characters is one token. -/
theorem scan_word {word rest : List Char} {values : List Value} (nonempty : word ≠ [])
    (letters : ∀ c ∈ word, isWord c = true) (apart : Apart rest) :
    scan (word ++ rest) values = nest (tokenOf word) (scan rest values) := by
  have chain : word.IsChain fun c d => clings c d = true := by
    have pairs : word.Pairwise fun c d => clings c d = true := by
      refine List.pairwise_of_forall_mem_list fun c first d second => ?_
      rw [clings, letters c first, letters d second]
      rfl
    exact pairs.isChain
  have differs {c : Char} (other : isWord c = false) : word ≠ [c] := by
    rintro rfl
    rw [letters c List.mem_cons_self] at other
    cases other
  exact scan_lexeme (lexemes_run nonempty chain apart) (differs rfl) (differs rfl)

private theorem isWord_of_isField {c : Char} (letter : isField c = true) : isWord c = true := by
  have spelt : isWord c = (c.isUpper || c.isLower || c.isDigit || c = '_' || c = '.') := rfl
  simp only [isField, Bool.or_eq_true] at letter
  simp only [spelt, Bool.or_eq_true]
  rcases letter with ((lower | digit) | underscore) | dot
  · exact .inl (.inl (.inl (.inr lower)))
  · exact .inl (.inl (.inr digit))
  · exact .inl (.inr underscore)
  · exact .inr dot

/-- No keyword and no sign is spelt like a field. -/
private theorem tokenOf_field {word : List Char} (letters : ∀ c ∈ word, isField c = true) :
    tokenOf word = .name (String.ofList word) := by
  have foreign : (fixedTokens.all fun entry => !entry.1.all isField) = true := rfl
  have unlisted : fixedTokens.lookup word = none := by
    refine List.lookup_eq_none_iff.mpr fun entry listed => bne_iff_ne.mpr ?_
    rintro rfl
    have other := List.all_eq_true.mp foreign entry listed
    rw [List.all_eq_true.mpr letters] at other
    cases other
  have whole : word.all isWord = true :=
    List.all_eq_true.mpr fun c member => isWord_of_isField (letters c member)
  rw [tokenOf, unlisted, Option.getD_none, if_pos whole]

/-- A field is read as its name. -/
theorem scan_field {field : String} (named : FieldName field) {rest : List Char}
    (apart : Apart rest) (values : List Value) :
    scan (field.toList ++ rest) values = nest (.name field) (scan rest values) := by
  have nonempty : field.toList ≠ [] := by
    intro empty
    exact named.1 (String.toList_eq_nil_iff.mp empty)
  have letters : ∀ c ∈ field.toList, isWord c = true :=
    fun c member => isWord_of_isField (named.2 c member)
  rw [scan_word nonempty letters apart, tokenOf_field named.2, String.ofList_toList]

/-- A keyword is read as itself. -/
theorem scan_keyword (keyword : Keyword) {rest : List Char} (apart : Apart rest)
    (values : List Value) :
    scan (keyword.text.toList ++ rest) values = nest (.keyword keyword) (scan rest values) := by
  have letters : keyword.text.toList.all isWord = true := by
    cases keyword <;> rfl
  have known : tokenOf keyword.text.toList = .keyword keyword := by
    cases keyword <;> rfl
  have nonempty : keyword.text.toList ≠ [] := by
    cases keyword <;> decide
  rw [scan_word nonempty (List.all_eq_true.mp letters) apart, known]

/-- A sign of comparison is read as itself. -/
theorem scan_comparison (op : Comparison) {rest : List Char} (apart : Apart rest)
    (values : List Value) :
    scan (op.symbol.toList ++ rest) values = nest (.comparison op) (scan rest values) := by
  have chain : op.symbol.toList.IsChain fun c d => clings c d = true := by
    cases op <;> simp [Comparison.symbol, clings, isSign]
  have cut := lexemes_run (by cases op <;> decide) chain apart
  have known : tokenOf op.symbol.toList = .comparison op := by
    cases op <;> rfl
  rw [scan_lexeme cut (by cases op <;> decide) (by cases op <;> decide), known]

theorem scan_comma (rest : List Char) (values : List Value) :
    scan (',' :: rest) values = nest .comma (scan rest values) := by
  rw [scan, lexemes_single fun d => rfl]
  rfl

theorem scan_opening (rest : List Char) (values : List Value) :
    scan ('(' :: rest) values = nest .opening (scan rest values) := by
  rw [scan, lexemes_single fun d => rfl]
  rfl

theorem scan_closing (rest : List Char) (values : List Value) :
    scan (')' :: rest) values = nest .closing (scan rest values) := by
  rw [scan, lexemes_single fun d => rfl]
  rfl

/-! Joined members -/

/-- No piece is the keyword of a connective. -/
def Unseparated (pieces : List Piece) : Prop :=
  ∀ piece ∈ pieces, ∀ connective, separates connective piece = false

/-- The pieces stand for a formula wherever an AND-list may have a member. -/
structure Member (pieces : List Piece) (formula : Formula) : Prop where
  unseparated : Unseparated pieces
  read : negation? pieces = some formula

/-- The keyword of a connective. -/
def separator : Connective → Piece
  | .and => .token (.keyword .and)
  | .or => .token (.keyword .or)

private theorem separates_separator (connective : Connective) :
    separates connective (separator connective) = true := by
  cases connective <;> rfl

private theorem splitOnP_intercalate {connective : Connective} {parts : List (List Piece)}
    (nonempty : parts ≠ [])
    (whole : ∀ part ∈ parts, ∀ piece ∈ part, separates connective piece = false) :
    ([separator connective].intercalate parts).splitOnP (separates connective) = parts := by
  induction parts with
  | nil => exact absurd rfl nonempty
  | cons first rest later =>
    have head := whole first List.mem_cons_self
    cases rest with
    | nil =>
      rw [List.intercalate_singleton]
      exact List.splitOnP_eq_singleton head
    | cons second others =>
      have tail := later (List.cons_ne_nil second others) fun part member =>
        whole part (List.mem_cons_of_mem _ member)
      rw [List.intercalate_cons_cons, List.append_assoc, List.singleton_append,
        List.splitOnP_append_cons_of_forall_mem head _ (separates_separator connective), tail]

private theorem mapM_eq_some {member? : List Piece → Option Formula} {parts : List (List Piece)}
    {formulas : List Formula}
    (each : List.Forall₂ (fun part formula => member? part = some formula) parts formulas) :
    parts.mapM member? = some formulas := by
  induction each with
  | nil => rfl
  | cons head _ tail => rw [List.mapM_cons, head, tail]; rfl

private theorem separated_intercalate {connective : Connective}
    {member? : List Piece → Option Formula} {parts : List (List Piece)} {formulas : List Formula}
    (nonempty : parts ≠ [])
    (whole : ∀ part ∈ parts, ∀ piece ∈ part, separates connective piece = false)
    (each : List.Forall₂ (fun part formula => member? part = .some formula) parts formulas) :
    separated? connective member? ([separator connective].intercalate parts) =
      joinAll? (.join connective) formulas := by
  rw [separated?, splitOnP_intercalate nonempty whole, mapM_eq_some each]
  rfl

private theorem separated_single {connective : Connective} {member? : List Piece → Option Formula}
    {pieces : List Piece} (whole : ∀ piece ∈ pieces, separates connective piece = false) :
    separated? connective member? pieces = member? pieces := by
  rw [separated?, List.splitOnP_eq_singleton whole, List.mapM_cons]
  cases member? pieces <;> rfl

private theorem intercalate_without {separator : Piece} {connective : Connective}
    (other : separates connective separator = false) {parts : List (List Piece)}
    (whole : ∀ part ∈ parts, ∀ piece ∈ part, separates connective piece = false) :
    ∀ piece ∈ [separator].intercalate parts, separates connective piece = false := by
  induction parts with
  | nil => simp
  | cons first rest later =>
    have head := whole first List.mem_cons_self
    cases rest with
    | nil => simpa using head
    | cons second others =>
      have tail := later fun part member => whole part (List.mem_cons_of_mem _ member)
      rw [List.intercalate_cons_cons, List.append_assoc, List.singleton_append]
      intro piece member
      rcases List.mem_append.mp member with inside | behind
      · exact head piece inside
      · rcases List.mem_cons.mp behind with rfl | further
        · exact other
        · exact tail piece further

private theorem unseparated_members {parts : List (List Piece)} {formulas : List Formula}
    (each : List.Forall₂ Member parts formulas) : ∀ part ∈ parts, Unseparated part := by
  induction each with
  | nil => simp
  | cons head _ tail => exact List.forall_mem_cons.mpr ⟨head.unseparated, tail⟩

/-- Without a connective there is one member only. -/
theorem condition_single {pieces : List Piece} (unseparated : Unseparated pieces) :
    condition? pieces = negation? pieces := by
  rw [condition?, separated_single fun piece member => unseparated piece member _,
    separated_single fun piece member => unseparated piece member _]

/-- Members joined by a connective are read as their join. -/
theorem condition_joined (connective : Connective) {parts : List (List Piece)}
    {formulas : List Formula} (nonempty : parts ≠ []) (each : List.Forall₂ Member parts formulas) :
    condition? ([separator connective].intercalate parts) =
      joinAll? (.join connective) formulas := by
  have whole (other : Connective) :
      ∀ part ∈ parts, ∀ piece ∈ part, separates other piece = false :=
    fun part member piece inside => unseparated_members each part member piece inside other
  cases connective with
  | and =>
    have other : separates .or (separator .and) = false := rfl
    have inside := intercalate_without other (whole .or)
    rw [condition?, separated_single inside]
    exact separated_intercalate nonempty (whole .and) (each.imp fun _ _ member => member.read)
  | or =>
    refine separated_intercalate nonempty (whole .or) (each.imp fun part formula member => ?_)
    rw [separated_single fun piece inside => member.unseparated piece inside _, member.read]

end QueryGate.ConditionGrammar
