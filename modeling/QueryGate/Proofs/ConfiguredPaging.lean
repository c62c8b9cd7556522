import QueryGate.Proofs.ConfiguredPolicies
import QueryGate.Proofs.PageValues
import QueryGate.Proofs.StatementText

/-! Pages and default limits of configured resources. The limit of a page counts before the default
one, whatever the style; an offset comes from a page with a limit only, so no statement skips rows
without bounding their number. Pages by limit and offset are refused for the listed faults and for
no others. -/
namespace QueryGate.Select
open QueryGate.Expr Outcomes

/-- The statement without its limit and its offset. -/
def unpaged (select : Select) : Select := { select with limit := none, offset := none }

/-- What a limit and an offset add to the text of a statement. -/
def pageText (limit offset : Option UInt64) : String :=
  (limit.elim "" fun number => " LIMIT " ++ Text.natural number.toNat)
    ++ offset.elim "" fun number => " OFFSET " ++ Text.natural number.toNat

/-- The limit and the offset of a statement stand behind all else. -/
theorem render_eq_unpaged (select : Select) :
    select.render = select.unpaged.render.map fun fragment =>
      fragment ++ numberClause " LIMIT " select.limit ++ numberClause " OFFSET " select.offset := by
  rw [render, render, bind_map]
  refine bind_congr fun columns => ?_
  by_cases blank : columns.isEmpty = true
  · rw [if_pos blank, if_pos blank]
    rfl
  · rw [if_neg blank, if_neg blank]
    simp only [bind_map]
    refine bind_congr fun joins => bind_congr fun conditions => bind_congr fun having =>
      bind_congr fun ordering => ?_
    have cut : numberClause " LIMIT " select.unpaged.limit = .empty ∧
        numberClause " OFFSET " select.unpaged.offset = .empty := ⟨rfl, rfl⟩
    rw [cut.1, cut.2, Fragment.append_empty, Fragment.append_empty]
    rfl

private theorem text_numberClause (fragment : Fragment) (keyword : String) (number : Option UInt64)
    (dialect : Dialect) :
    (fragment ++ numberClause keyword number).text dialect = fragment.text dialect
      ++ number.elim "" fun number => keyword ++ Text.natural number.toNat := by
  rw [Fragment.text_eq_textFrom, Fragment.chunks_append, Fragment.textFrom_append,
    ← Fragment.text_eq_textFrom]
  cases number with
  | none => rfl
  | some number => simp [numberClause, Fragment.textFrom]

/-- A statement is built like the one without limit and offset, and they are written behind it. -/
theorem build_eq_unpaged (select : Select) (dialect : Dialect) :
    select.build dialect = (select.unpaged.build dialect).map fun statement =>
      { statement with text := statement.text ++ pageText select.limit select.offset } := by
  rw [build_eq, build_eq, render_eq_unpaged]
  cases select.unpaged.render with
  | error error => rfl
  | ok fragment =>
    refine congrArg Except.ok ?_
    simp only [text_numberClause, Fragment.params_append, params_numberClause, List.append_nil,
      pageText, String.append_assoc]

end QueryGate.Select

namespace QueryGate.ConfiguredPaging
open ConfiguredPolicies Outcomes PageRule PolicyStages

variable {config : Config} {registry : Registry} {policy : Policy} {query : Query}

/-- The maximum for the limits of pages. -/
def maxLimit : PageStyle → Option UInt64
  | .limitOffset maxLimit _ => maxLimit
  | .limitNumber maxLimit => maxLimit

/-- The limit and the offset that a statement of a configured resource has for a query. -/
structure Paged (config : Config) (query : Query) (built : Select) : Prop where
  /-- With a style, the limit of the page counts, and the default one where the page gives none. -/
  styled : ∀ style, config.pagination = some style → ∃ limit,
    ReadsTo query Page.limit (maxLimit style) limit ∧ built.limit = limit.or config.defaultLimit
  /-- Without a style, the page is not looked at. -/
  unstyled : config.pagination = none → built.limit = config.defaultLimit ∧ built.offset = none
  /-- By limit and offset, the offset is that of the page. -/
  offset : ∀ maxLimit maxOffset, config.pagination = some (.limitOffset maxLimit maxOffset) →
    ReadsTo query Page.offset maxOffset built.offset
  /-- An offset stands behind a limit, and the page gives both. -/
  together : built.offset ≠ none → built.limit ≠ none ∧ ∃ text, Gives query Page.limit text
  /-- The text ends with them, and with nothing where they are missing. -/
  text : ∀ dialect, built.build dialect = (built.unpaged.build dialect).map fun statement =>
    { statement with text := statement.text ++ Select.pageText built.limit built.offset }

/-- Why a page by limit and offset is refused. -/
inductive Fault (maxLimit maxOffset : Option UInt64) (query : Query) : Prop where
  | limitUnreadable {text : String} (gives : Gives query Page.limit text)
      (unreadable : ∀ number, ¬ Denotes text number)
  | limitTooLarge {text : String} {number bound : UInt64} (gives : Gives query Page.limit text)
      (denotes : Denotes text number) (limited : maxLimit = some bound) (above : bound < number)
  | offsetAlone {text : String} (gives : Gives query Page.offset text)
      (unlimited : ∀ other, ¬ Gives query Page.limit other)
  | offsetUnreadable {text : String} (gives : Gives query Page.offset text)
      (unreadable : ∀ number, ¬ Denotes text number)
  | offsetTooLarge {text : String} {number bound : UInt64} (gives : Gives query Page.offset text)
      (denotes : Denotes text number) (limited : maxOffset = some bound) (above : bound < number)

/-! Refused pages -/

private theorem not_reads_of_unreadable {part : Page → Option String} {maximum read : Option UInt64}
    {text : String} (gives : Gives query part text) (unreadable : ∀ number, ¬ Denotes text number) :
    ¬ ReadsTo query part maximum read := by
  intro reads
  cases reads with
  | nothing ungiven => exact ungiven text gives
  | number other denotes =>
    cases gives.unique other
    exact unreadable _ denotes

private theorem not_reads_of_above {part : Page → Option String} {maximum read : Option UInt64}
    {text : String} {number bound : UInt64} (gives : Gives query part text)
    (denotes : Denotes text number) (limited : maximum = some bound) (above : bound < number) :
    ¬ ReadsTo query part maximum read := by
  intro reads
  cases reads with
  | nothing ungiven => exact ungiven text gives
  | number other same bounded =>
    cases gives.unique other
    cases denotes.unique same
    exact UInt64.not_le.mpr above (bounded bound limited)

private theorem fault_of_fails {maxLimit maxOffset : Option UInt64}
    (fails : ∀ result, (limitOffset maxLimit maxOffset).effect query ≠ .ok result) :
    Fault maxLimit maxOffset query := by
  rcases readsTo_or_refused query Page.limit maxLimit with ⟨limit, limitReads⟩ |
    ⟨text, gives, unreadable | ⟨number, bound, denotes, limited, above⟩⟩
  · rcases readsTo_or_refused query Page.offset maxOffset with ⟨offset, offsetReads⟩ |
      ⟨text, gives, unreadable | ⟨number, bound, denotes, limited, above⟩⟩
    · -- Both values are in order, so the limit must be missing beside an offset.
      have apart : ¬ (offset ≠ none → limit ≠ none) := fun beside =>
        fails _ (limitOffset_eq_ok_iff.mpr ⟨limit, offset, limitReads, offsetReads, beside, rfl⟩)
      obtain ⟨present, missing⟩ : offset ≠ none ∧ limit = none := by simpa using apart
      cases offsetReads with
      | nothing => exact absurd rfl present
      | number gives =>
        cases limitReads with
        | nothing unlimited => exact .offsetAlone gives unlimited
        | number => cases missing
    · exact .offsetUnreadable gives unreadable
    · exact .offsetTooLarge gives denotes limited above
  · exact .limitUnreadable gives unreadable
  · exact .limitTooLarge gives denotes limited above

private theorem fails_of_fault {maxLimit maxOffset : Option UInt64}
    (fault : Fault maxLimit maxOffset query) (result : Effect) :
    (limitOffset maxLimit maxOffset).effect query ≠ .ok result := by
  intro read
  obtain ⟨limit, offset, limitReads, offsetReads, beside, -⟩ := limitOffset_eq_ok_iff.mp read
  cases fault with
  | limitUnreadable gives unreadable => exact not_reads_of_unreadable gives unreadable limitReads
  | limitTooLarge gives denotes limited above =>
    exact not_reads_of_above gives denotes limited above limitReads
  | offsetAlone gives unlimited =>
    cases limitReads with
    | number given => exact unlimited _ given
    | nothing =>
      cases offsetReads with
      | nothing ungiven => exact ungiven _ gives
      | number => exact beside (Option.some_ne_none _) rfl
  | offsetUnreadable gives unreadable => exact not_reads_of_unreadable gives unreadable offsetReads
  | offsetTooLarge gives denotes limited above =>
    exact not_reads_of_above gives denotes limited above offsetReads

/-- A page has no effect exactly when it has a fault. -/
theorem limitOffset_fails_iff {maxLimit maxOffset : Option UInt64} :
    (∀ result, (limitOffset maxLimit maxOffset).effect query ≠ .ok result) ↔
      Fault maxLimit maxOffset query := ⟨fault_of_fails, fails_of_fault⟩

/-- The rule for pages by limit and offset fails for these faults, on any statement. -/
theorem step_fails_iff {maxLimit maxOffset : Option UInt64} (context : Context) (query : Query)
    (select : Select) :
    ((limitOffset maxLimit maxOffset).extension context query select).failure ≠ none ↔
      Fault maxLimit maxOffset query := by
  rw [← limitOffset_fails_iff, ← exists_error_iff, Option.ne_none_iff_exists']
  refine exists_congr fun error => ?_
  rw [← Outcome.toExcept_eq_error_iff, extension_eq_act, map_eq_error_iff]

/-! Effects of configured rules -/

private theorem effects_default (query : Query) (limit : Option UInt64) :
    effects query (limit.map PageRule.defaultLimit).toList = .ok { fallback := limit } := by
  cases limit <;> rfl

/-- Without a style, only the default limit is written. -/
theorem effects_unstyled (unstyled : config.pagination = none) :
    effects query config.pageRules = .ok { fallback := config.defaultLimit } := by
  rw [Config.pageRules, unstyled]
  exact effects_default query config.defaultLimit

/-- With a style, the page comes first and the default limit fills in for it. -/
theorem effects_styled {style : PageStyle} (styled : config.pagination = some style)
    {result : Effect} (read : effects query config.pageRules = .ok result) :
    ∃ page, style.rule.effect query = .ok page ∧
      result = page.andThen { fallback := config.defaultLimit } := by
  rw [Config.pageRules, styled] at read
  obtain ⟨page, pageRead, rest⟩ := bind_eq_ok_iff.mp read
  obtain ⟨others, othersRead, rfl⟩ := map_eq_ok_iff.mp rest
  cases (effects_default query config.defaultLimit).symm.trans othersRead
  exact ⟨page, pageRead, rfl⟩

/-- The limit and the offset of a statement that is built from nothing are those of the rules. -/
theorem effect_of_build (accepted : config.policy registry = .ok policy) {context : Context}
    {built : Select} (succeeded : policy.build context query = .ok built) :
    ∃ result, effects query config.pageRules = .ok result ∧
      built.limit = result.limit.or result.fallback ∧ built.offset = result.offset := by
  obtain rfl := policy_of_accepted accepted
  obtain ⟨columns, conditions, terms, -, -, -, ran⟩ := build_eq_ok_iff.mp succeeded
  rw [runAll_eq_act] at ran
  obtain ⟨result, read, rfl⟩ := map_eq_ok_iff.mp ran
  rw [assembled_eq]
  exact ⟨result, read, by simp [Effect.act, Select.empty], by simp [Effect.act, Select.empty]⟩

/-- The effect of a page in a style. -/
private theorem page_of_style {style : PageStyle} {page : Effect}
    (read : style.rule.effect query = .ok page) :
    ReadsTo query Page.limit (maxLimit style) page.limit ∧ page.fallback = none ∧
      (page.offset ≠ none → page.limit ≠ none) := by
  cases style with
  | limitOffset maxLimit maxOffset =>
    obtain ⟨limit, offset, limitReads, -, beside, rfl⟩ := limitOffset_eq_ok_iff.mp read
    exact ⟨limitReads, rfl, beside⟩
  | limitNumber maxLimit => exact limit_of_limitNumber read

private theorem gives_of_reads {part : Page → Option String} {maximum read : Option UInt64}
    (reads : ReadsTo query part maximum read) (present : read ≠ none) :
    ∃ text, Gives query part text := by
  cases reads with
  | nothing => exact absurd rfl present
  | number gives => exact ⟨_, gives⟩

private theorem paged_of_unstyled (pagination : config.pagination = none) {built : Select}
    (limit : built.limit = config.defaultLimit) (offset : built.offset = none) :
    Paged config query built := by
  refine { styled := ?_, unstyled := fun _ => ⟨limit, offset⟩, offset := ?_, together := ?_,
           text := built.build_eq_unpaged }
  · intro style styled
    cases pagination.symm.trans styled
  · intro maxLimit maxOffset styled
    cases pagination.symm.trans styled
  · exact fun present => absurd offset present

private theorem paged_of_styled {style : PageStyle} (pagination : config.pagination = some style)
    {built : Select} {page : Effect} (read : style.rule.effect query = .ok page)
    (limit : built.limit = page.limit.or config.defaultLimit)
    (offset : built.offset = page.offset) : Paged config query built := by
  obtain ⟨limitReads, -, beside⟩ := page_of_style read
  refine { styled := ?_, unstyled := ?_, offset := ?_, together := ?_,
           text := built.build_eq_unpaged }
  · intro other styled
    cases pagination.symm.trans styled
    exact ⟨page.limit, limitReads, limit⟩
  · intro unstyled
    cases pagination.symm.trans unstyled
  · intro maxLimit maxOffset styled
    cases pagination.symm.trans styled
    obtain ⟨_, _, -, offsetReads, -, rfl⟩ := limitOffset_eq_ok_iff.mp read
    rw [offset]
    exact offsetReads
  · intro present
    rw [offset] at present
    have limited := beside present
    refine ⟨?_, gives_of_reads limitReads limited⟩
    rw [limit]
    simp [limited]

theorem paged_of_build (accepted : config.policy registry = .ok policy) {context : Context}
    {built : Select} (succeeded : policy.build context query = .ok built) :
    Paged config query built := by
  obtain ⟨result, read, limit, offset⟩ := effect_of_build accepted succeeded
  cases pagination : config.pagination with
  | none =>
    cases (effects_unstyled pagination).symm.trans read
    exact paged_of_unstyled pagination limit offset
  | some style =>
    obtain ⟨page, pageRead, rfl⟩ := effects_styled pagination read
    obtain ⟨-, unfilled, -⟩ := page_of_style pageRead
    refine paged_of_styled pagination pageRead ?_ ?_
    · simpa [Effect.andThen, unfilled] using limit
    · simpa [Effect.andThen] using offset

/-- On a resource with an accepted configuration, every statement that is built from nothing has the
limit and the offset that the page and the default limit call for. Where pages are by limit and
offset, the first extension reads them, and fails on a page exactly when it has a fault, whatever
the default limit is. -/
theorem pages_and_default_limit_compose (accepted : config.policy registry = .ok policy) :
    (∀ context query built, policy.build context query = .ok built → Paged config query built) ∧
    ∀ maxLimit maxOffset, config.pagination = some (.limitOffset maxLimit maxOffset) →
      ∃ step later, policy.extensions = step :: later ∧ ∀ context query select,
        (step context query select).failure ≠ none ↔ Fault maxLimit maxOffset query := by
  refine ⟨fun context query built => paged_of_build accepted, fun maxLimit maxOffset styled => ?_⟩
  obtain rfl := policy_of_accepted accepted
  have rules : config.pageRules = limitOffset maxLimit maxOffset ::
      (config.defaultLimit.map PageRule.defaultLimit).toList := by
    rw [Config.pageRules, styled]
    rfl
  exact ⟨_, _, congrArg (List.map extension) rules, step_fails_iff⟩

/-- Pages of at most a hundred rows, and of twenty where the query does not say. -/
def commentConfig : Config where
  resource := "comments"
  columns := .ofList [("id", "id")]
  defaultFields := ["id"]
  pagination := some (.limitOffset (some 100) none)
  defaultLimit := some 20

/-- A limit with a leading zero, and an offset. -/
def secondPage : Query where
  page := some { limit := some "010", offset := some "10" }

/-- An offset beside a limit that counts as not given. -/
def offsetAlone : Query where
  page := some { limit := some "", offset := some "10" }

theorem comments_paged :
    ∃ policy built, commentConfig.policy = .ok policy ∧
      policy.build {} secondPage = .ok built ∧ Paged commentConfig secondPage built ∧
      built.limit = some 10 ∧ built.offset = some 10 ∧
      commentConfig.pagination = some (.limitOffset (some 100) none) ∧
      ∃ step later, policy.extensions = step :: later ∧
        (step {} offsetAlone built).failure = some (.page .offsetWithoutLimit) ∧
        Fault (some 100) none offsetAlone := by
  obtain ⟨policy, accepted⟩ : ∃ policy, commentConfig.policy = .ok policy := ⟨_, rfl⟩
  obtain ⟨paged, refused⟩ := pages_and_default_limit_compose accepted
  obtain ⟨step, later, first, fails⟩ := refused (some 100) none rfl
  cases accepted
  cases first
  exact ⟨_, _, rfl, rfl, paged {} secondPage _ rfl, rfl, rfl, rfl, _, _, rfl, rfl,
    (fails {} offsetAlone .empty).mp (Option.some_ne_none _)⟩

end QueryGate.ConfiguredPaging
