import QueryGate.Proofs.PageValues

/-! Numbered pages tile the rows. Page after page, each one starts at the row behind the one before
it, so no row is shown on two pages and none between two pages is left out. All factors are below
`2 ^ 32`, so that the first row of a page is the exact product. -/
namespace QueryGate.PageRule
open Outcomes

/-- The row at which a statement starts, counted from zero. -/
def firstRow (select : Select) : Nat := (select.offset.getD 0).toNat

/-- The limit and the offset of the statement let the row through. -/
def Shows (select : Select) (row : Nat) : Prop :=
  ∃ limit, select.limit = some limit ∧ firstRow select ≤ row ∧
    row < firstRow select + limit.toNat

/-- Both queries leave the value out, or they give it in texts that denote one number. -/
inductive SameValue (part : Page → Option String) (first second : Query) : Prop where
  | ungiven (left : ∀ text, ¬ Gives first part text) (right : ∀ text, ¬ Gives second part text)
  | number {text other : String} {number : UInt64} (gives : Gives first part text)
      (denotes : Denotes text number) (givesToo : Gives second part other)
      (denotesToo : Denotes other number)

/-- The results are the same, or they both refuse page zero and differ in nothing but the text that
they quote for it. -/
inductive SameButQuote : Outcome → Outcome → Prop where
  | same (outcome : Outcome) : SameButQuote outcome outcome
  | zero {text other : String} (select : Select) (denotes : Denotes text 0)
      (denotesToo : Denotes other 0) :
      SameButQuote (.failed select (.page (.invalidNumber text)))
        (.failed select (.page (.invalidNumber other)))

/-- What a rule for numbered pages makes of a statement that has no offset, for any query. -/
structure Tiles (maximum : Option UInt64) (select : Select) (run : Query → Outcome) : Prop where
  /-- Without a limit nothing changes, whatever the page number is. -/
  unlimited : ∀ query, (∀ text, ¬ Gives query Page.limit text) → run query = .done select
  /-- With one, exactly those queries succeed that ask for a page. -/
  accepts : ∀ query text, Gives query Page.limit text →
    ((run query).failure = none ↔ ∃ limit number, Asks maximum query limit number)
  /-- A page starts behind all pages before it, at a row that its offset can hold. -/
  paged : ∀ query limit number, Asks maximum query limit number →
    limit.toNat * (number.toNat - 1) < 2 ^ 64 ∧
      ∃ offset, run query = .done { select with limit := some limit, offset } ∧
        (offset.getD 0).toNat = limit.toNat * (number.toNat - 1)
  adjacent : ∀ first second limit number next, Asks maximum first limit number →
    Asks maximum second limit next → next.toNat = number.toNat + 1 →
    firstRow (run second).select = firstRow (run first).select + limit.toNat
  disjoint : ∀ first second limit number other, Asks maximum first limit number →
    Asks maximum second limit other → number ≠ other →
    ∀ row, ¬ (Shows (run first).select row ∧ Shows (run second).select row)
  /-- A page is the same page in whatever words it is asked for, or without words if it is the
  first. -/
  determined : ∀ first second limit number, Asks maximum first limit number →
    Asks maximum second limit number → run first = run second
  /-- Only what the texts denote counts. -/
  numeric : ∀ first second, SameValue Page.limit first second →
    SameValue Page.number first second → SameButQuote (run first) (run second)

variable {maximum : Option UInt64} {query first second : Query} {limit number : UInt64}
  {select : Select}

/-! Numbers of pages -/

private theorem toNat_pos (positive : number ≠ 0) : 0 < number.toNat :=
  Nat.pos_of_ne_zero fun zero => positive (UInt64.toNat_inj.mp zero)

theorem PageNumber.bounds (asked : PageNumber query number) :
    0 < number.toNat ∧ number.toNat < 2 ^ 32 := by
  cases asked with
  | first => decide
  | given gives denotes positive => exact ⟨toNat_pos positive, denotes.small⟩

theorem Asks.bounds (asks : Asks maximum query limit number) :
    limit.toNat < 2 ^ 32 ∧ 0 < number.toNat ∧ number.toNat < 2 ^ 32 := by
  cases asks.limit with
  | number gives denotes => exact ⟨denotes.small, asks.number.bounds⟩

/-- The product of two numbers below `2 ^ 32` fits. -/
private theorem product_lt {a b : Nat} (left : a < 2 ^ 32) (right : b < 2 ^ 32) :
    a * (b - 1) < 2 ^ 64 := by
  have bounded : a * (b - 1) ≤ 2 ^ 32 * (b - 1) := Nat.mul_le_mul_right _ (by omega)
  omega

/-- The offset of a page is exact. -/
theorem pageOffset_toNat (small : limit.toNat < 2 ^ 32) (positive : 0 < number.toNat)
    (few : number.toNat < 2 ^ 32) :
    ((pageOffset limit number).getD 0).toNat = limit.toNat * (number.toNat - 1) := by
  rw [pageOffset]
  by_cases one : number = 1
  · subst one
    simp
  · have exact_pred : (number - 1).toNat = number.toNat - 1 :=
      UInt64.toNat_sub_of_le number 1 (UInt64.le_iff_toNat_le.mpr positive)
    have fits := product_lt small few
    rw [if_neg one, Option.getD_some, UInt64.toNat_mul, exact_pred, Nat.mod_eq_of_lt fits]

/-! Runs -/

theorem run_of_ungiven (ungiven : ∀ text, ¬ Gives query Page.limit text)
    (context : Context) (select : Select) :
    (limitNumber maximum).extension context query select = .done select := by
  have nothing : (limitNumber maximum).effect query = .ok {} :=
    limitNumber_eq_ok_iff.mpr (.inl ⟨ungiven, rfl⟩)
  apply Outcome.toExcept_eq_ok_iff.mp
  rw [extension_eq_act, nothing]
  exact congrArg Except.ok (Effect.act_nothing select)

/-- A page that is asked for is written into the statement. The first one leaves the offset alone. -/
theorem run_of_asks (asks : Asks maximum query limit number) (context : Context)
    (select : Select) :
    (limitNumber maximum).extension context query select = .done { select with
      limit := some limit
      offset := (pageOffset limit number).or select.offset } := by
  have written : (limitNumber maximum).effect query =
      .ok { limit := some limit, offset := pageOffset limit number } :=
    limitNumber_eq_ok_iff.mpr (.inr ⟨limit, number, asks, rfl⟩)
  apply Outcome.toExcept_eq_ok_iff.mp
  rw [extension_eq_act, written]
  rfl

theorem asks_of_run {text : String} {context : Context} (gives : Gives query Page.limit text)
    (succeeded : ((limitNumber maximum).extension context query select).failure = none) :
    ∃ limit number, Asks maximum query limit number := by
  have ran : ((limitNumber maximum).extension context query select).toExcept =
      .ok ((limitNumber maximum).extension context query select).select := by
    rw [Outcome.toExcept, succeeded]
  rw [extension_eq_act] at ran
  obtain ⟨result, read, -⟩ := map_eq_ok_iff.mp ran
  rcases limitNumber_eq_ok_iff.mp read with ⟨ungiven, -⟩ | ⟨limit, number, asks, -⟩
  · exact absurd gives (ungiven text)
  · exact ⟨limit, number, asks⟩

/-- A readable limit is checked against the maximum, and then the page number is looked at. -/
private theorem run_of_denotes {text : String} (gives : Gives query Page.limit text)
    (denotes : Denotes text limit) (context : Context) (select : Select) :
    ∃ page, query.page = some page ∧ (limitNumber maximum).extension context query select =
      match atMost maximum .limitTooLarge limit with
      | .error fault => .failed select (.page fault)
      | .ok limit => finish (select.setLimit limit) (numberOffset limit page) := by
  have ⟨page, paged, _⟩ := gives
  refine ⟨page, paged, ?_⟩
  rw [extension, paged]
  dsimp only
  rw [applyNumber, readLimit_of_denotes paged gives denotes]
  cases atMost maximum .limitTooLarge limit <;> rfl

private theorem alike_of_same_number {page other : Page} (paged : first.page = some page)
    (pagedToo : second.page = some other) (same : SameValue Page.number first second)
    (select : Select) (limit : UInt64) :
    SameButQuote (finish select (numberOffset limit page))
      (finish select (numberOffset limit other)) := by
  cases same with
  | ungiven left right =>
    rw [numberOffset_of_ungiven paged left, numberOffset_of_ungiven pagedToo right]
    exact .same _
  | @number _ _ number gives denotes givesToo denotesToo =>
    rw [numberOffset_of_denotes paged gives denotes,
      numberOffset_of_denotes pagedToo givesToo denotesToo]
    by_cases zero : number = 0
    · subst zero
      exact .zero select denotes denotesToo
    · rw [if_neg zero, if_neg zero]
      exact .same _

theorem run_numeric (limits : SameValue Page.limit first second)
    (numbers : SameValue Page.number first second) (context : Context) (select : Select) :
    SameButQuote ((limitNumber maximum).extension context first select)
      ((limitNumber maximum).extension context second select) := by
  cases limits with
  | ungiven left right =>
    rw [run_of_ungiven left, run_of_ungiven right]
    exact .same _
  | number gives denotes givesToo denotesToo =>
    obtain ⟨page, paged, ran⟩ := run_of_denotes gives denotes context select
    obtain ⟨other, pagedToo, ranToo⟩ := run_of_denotes givesToo denotesToo context select
    rw [ran, ranToo]
    cases atMost maximum .limitTooLarge _ with
    | error fault => exact .same _
    | ok limit => exact alike_of_same_number paged pagedToo numbers (select.setLimit limit) limit

/-! Tiles -/

private theorem behind_page {size number : Nat} (positive : 0 < number) :
    size * (number - 1) + size = size * number := by
  rw [← Nat.mul_succ, Nat.succ_eq_add_one, Nat.sub_add_cancel positive]

private theorem firstRow_of_asks (asks : Asks maximum query limit number) (context : Context)
    (unshifted : select.offset = none) :
    firstRow ((limitNumber maximum).extension context query select).select =
      limit.toNat * (number.toNat - 1) := by
  obtain ⟨small, positive, few⟩ := asks.bounds
  rw [run_of_asks asks, unshifted, ← pageOffset_toNat small positive few, firstRow]
  simp [Outcome.done]

private theorem shows_iff (asks : Asks maximum query limit number) (context : Context)
    (unshifted : select.offset = none) (row : Nat) :
    Shows ((limitNumber maximum).extension context query select).select row ↔
      limit.toNat * (number.toNat - 1) ≤ row ∧ row < limit.toNat * number.toNat := by
  obtain ⟨-, positive, -⟩ := asks.bounds
  have limited : ((limitNumber maximum).extension context query select).select.limit =
      some limit := by
    rw [run_of_asks asks]
    rfl
  simp [Shows, limited, firstRow_of_asks asks context unshifted, behind_page positive]

/-- The page behind a page starts where that page ends. -/
theorem firstRow_next {next : UInt64} (asks : Asks maximum first limit number)
    (asksNext : Asks maximum second limit next) (follows : next.toNat = number.toNat + 1)
    (context : Context) (unshifted : select.offset = none) :
    firstRow ((limitNumber maximum).extension context second select).select =
      firstRow ((limitNumber maximum).extension context first select).select + limit.toNat := by
  obtain ⟨-, positive, -⟩ := asks.bounds
  rw [firstRow_of_asks asks context unshifted, firstRow_of_asks asksNext context unshifted,
    follows, Nat.add_sub_cancel, behind_page positive]

/-- No row lies on an earlier page and on a later one. -/
private theorem apart_of_lt {size earlier later row : Nat} (before : earlier < later)
    (onEarlier : row < size * earlier) (onLater : size * (later - 1) ≤ row) : False := by
  have reached : size * earlier ≤ size * (later - 1) := Nat.mul_le_mul_left size (by omega)
  omega

theorem not_shows_both {other : UInt64} (asks : Asks maximum first limit number)
    (asksOther : Asks maximum second limit other) (different : number ≠ other)
    (context : Context) (unshifted : select.offset = none) (row : Nat) :
    ¬ (Shows ((limitNumber maximum).extension context first select).select row ∧
      Shows ((limitNumber maximum).extension context second select).select row) := by
  rw [shows_iff asks context unshifted, shows_iff asksOther context unshifted]
  rintro ⟨⟨start, stop⟩, startOther, stopOther⟩
  have distinct : number.toNat ≠ other.toNat := fun same => different (UInt64.toNat_inj.mp same)
  rcases Nat.lt_or_gt_of_ne distinct with before | behind
  · exact apart_of_lt before stop startOther
  · exact apart_of_lt behind stopOther start

/-- On a statement without an offset, the pages that queries ask for tile the rows: the rule
succeeds for exactly the pages with readable values in range, and puts each of them at its exact
place. -/
theorem numbered_pages_tile_rows (maximum : Option UInt64) (context : Context)
    (unshifted : select.offset = none) :
    Tiles maximum select fun query => (limitNumber maximum).extension context query select where
  unlimited := fun query ungiven => run_of_ungiven ungiven context select
  accepts := by
    intro query text gives
    constructor
    · exact asks_of_run gives
    · rintro ⟨limit, number, asks⟩
      rw [run_of_asks asks]
      rfl
  paged := by
    intro query limit number asks
    obtain ⟨small, positive, few⟩ := asks.bounds
    refine ⟨product_lt small few, pageOffset limit number, ?_,
      pageOffset_toNat small positive few⟩
    rw [run_of_asks asks, unshifted, Option.or_none]
  adjacent := fun _ _ _ _ _ asks asksNext follows =>
    firstRow_next asks asksNext follows context unshifted
  disjoint := fun _ _ _ _ _ asks asksOther different =>
    not_shows_both asks asksOther different context unshifted
  determined := by
    intro first second limit number asks asksToo
    rw [run_of_asks asks, run_of_asks asksToo]
  numeric := fun first second limits numbers => run_numeric limits numbers context select

/-- A limit and a page number, as a request writes them. -/
def numberedPage (limit number : String) : Query where
  page := some { limit := some limit, number := some number }

private theorem numberedPage_asks {limitText numberText : String} {limit number : UInt64}
    (limited : readNumber limitText = some limit) (numbered : readNumber numberText = some number)
    (positive : number ≠ 0) : Asks none (numberedPage limitText numberText) limit number := by
  obtain ⟨limitWritten, limitDenotes⟩ := readNumber_eq_some_iff.mp limited
  obtain ⟨numberWritten, numberDenotes⟩ := readNumber_eq_some_iff.mp numbered
  exact {
    limit := .number ⟨_, rfl, rfl, limitWritten⟩ limitDenotes (by rintro _ ⟨⟩)
    number := .given ⟨_, rfl, rfl, numberWritten⟩ numberDenotes positive }

/-- The last page of the largest size starts near the end of the range of offsets, and leading
zeros change neither a page nor the one behind it. -/
theorem last_page_in_range :
    let run := fun query => (limitNumber none).extension {} query .empty
    (∃ offset, run (numberedPage "4294967295" "4294967295") =
        .done { limit := some 4294967295, offset } ∧
      (offset.getD 0).toNat = 18446744060824649730) ∧
      run (numberedPage "007" "0002") = run (numberedPage "7" "2") ∧
      firstRow (run (numberedPage "7" "03")).select =
        firstRow (run (numberedPage "007" "0002")).select + 7 := by
  intro run
  have tiles : Tiles none .empty run := numbered_pages_tile_rows none {} rfl
  have last : Asks none (numberedPage "4294967295" "4294967295") 4294967295 4294967295 :=
    numberedPage_asks rfl rfl (by decide)
  have second : Asks none (numberedPage "7" "2") 7 2 :=
    numberedPage_asks rfl rfl (by decide)
  have padded : Asks none (numberedPage "007" "0002") 7 2 :=
    numberedPage_asks rfl rfl (by decide)
  have third : Asks none (numberedPage "7" "03") 7 3 :=
    numberedPage_asks rfl rfl (by decide)
  obtain ⟨-, offset, shown, placed⟩ := tiles.paged _ _ _ last
  exact ⟨⟨offset, shown, placed⟩, tiles.determined _ _ _ _ padded second,
    tiles.adjacent _ _ _ _ _ padded third rfl⟩

end QueryGate.PageRule
