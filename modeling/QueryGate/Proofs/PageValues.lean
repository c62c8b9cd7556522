import Mathlib.Data.List.Induction
import Mathlib.Data.Nat.Digits.Defs
import QueryGate.Proofs.PagingEffects

/-! What the values of a page mean, and what the paging rules make of them. A value is given when it
is present and not empty; it must then denote a number within its maximum. Each rule is opened once:
the effect that it has when all values are in order, and the reasons for which it has none. -/
namespace QueryGate.PageRule
open Outcomes

/-- The text consists of decimal digits, and the number that they denote is below `2 ^ 32`. -/
structure Denotes (text : String) (number : UInt64) : Prop where
  digits : ∀ c ∈ text.toList, '0' ≤ c ∧ c ≤ '9'
  value : Nat.ofDigits 10 (text.toList.reverse.map fun c => c.toNat - '0'.toNat) = number.toNat
  small : number.toNat < 2 ^ 32

/-- The page of the query has this value, and it is not empty. -/
def Gives (query : Query) (part : Page → Option String) (text : String) : Prop :=
  ∃ page, query.page = some page ∧ part page = some text ∧ text ≠ ""

/-- The number stays within the maximum, if there is one. -/
def AtMost (maximum : Option UInt64) (number : UInt64) : Prop :=
  ∀ bound, maximum = some bound → number ≤ bound

/-- What a page value reads as: nothing where it is not given, and else its number, which stays
within the maximum. -/
inductive ReadsTo (query : Query) (part : Page → Option String) (maximum : Option UInt64) :
    Option UInt64 → Prop where
  | nothing (ungiven : ∀ text, ¬ Gives query part text) : ReadsTo query part maximum none
  | number {text : String} {number : UInt64} (gives : Gives query part text)
      (denotes : Denotes text number) (bounded : AtMost maximum number) :
      ReadsTo query part maximum (some number)

/-- The number of the page that the query asks for: the first page where it gives none. -/
inductive PageNumber (query : Query) : UInt64 → Prop where
  | first (ungiven : ∀ text, ¬ Gives query Page.number text) : PageNumber query 1
  | given {text : String} {number : UInt64} (gives : Gives query Page.number text)
      (denotes : Denotes text number) (positive : number ≠ 0) : PageNumber query number

/-- The query asks for a numbered page, with a limit that stays within the maximum. -/
structure Asks (maximum : Option UInt64) (query : Query) (limit number : UInt64) : Prop where
  limit : ReadsTo query Page.limit maximum (some limit)
  number : PageNumber query number

/-- The offset that is written for a numbered page. The first one needs none. -/
def pageOffset (limit number : UInt64) : Option UInt64 :=
  if number = 1 then none else some (limit * (number - 1))

variable {query : Query} {part : Page → Option String} {maximum : Option UInt64}

/-! Numbers -/

private theorem isDigit_iff {c : Char} : c.isDigit = true ↔ '0' ≤ c ∧ c ≤ '9' := by
  simp [Char.isDigit, Char.le_def]

/-- Digits read from the front denote what they do by their places. -/
private theorem ofDigits_eq (digits : List Char) :
    Text.ofDigits digits = Nat.ofDigits 10 (digits.reverse.map Text.digitValue) := by
  induction digits using List.reverseRecOn with
  | nil => rfl
  | append_singleton digits c earlier =>
    rw [Text.ofDigits_append_singleton, earlier, List.reverse_concat, List.map_cons,
      Nat.ofDigits_cons]
    omega

private theorem ofDigits_of_digits {digits : List Char} (plain : ∀ c ∈ digits, c.isDigit = true) :
    Text.ofDigits digits = Nat.ofDigits 10 (digits.reverse.map fun c => c.toNat - '0'.toNat) := by
  rw [ofDigits_eq]
  refine congrArg (Nat.ofDigits 10) (List.map_congr_left fun c member => ?_)
  rw [Text.digitValue, if_pos (plain c (List.mem_reverse.mp member))]

theorem readNumber_eq_some_iff {text : String} {number : UInt64} :
    readNumber text = some number ↔ text ≠ "" ∧ Denotes text number := by
  rw [readNumber]
  constructor
  · intro read
    split at read
    · rename_i checked
      obtain ⟨written, all, small⟩ := checked
      have plain := List.all_eq_true.mp all
      have exact : number.toNat = Text.ofDigits text.toList := by
        rw [← Option.some.inj read]
        exact UInt64.toNat_ofNat_of_lt' (Nat.lt_trans small (by decide))
      refine ⟨written, ?_⟩
      exact { digits := fun c member => isDigit_iff.mp (plain c member)
              value := by rw [exact, ofDigits_of_digits plain]
              small := exact ▸ small }
    · cases read
  · rintro ⟨written, digits, value, small⟩
    have plain : ∀ c ∈ text.toList, c.isDigit = true :=
      fun c member => isDigit_iff.mpr (digits c member)
    rw [ofDigits_of_digits plain, value, if_pos ⟨written, List.all_eq_true.mpr plain, small⟩,
      UInt64.ofNat_toNat]

/-- A given value is not empty, so it is read exactly when it denotes a number. -/
theorem readNumber_of_gives {text : String} {number : UInt64} (gives : Gives query part text) :
    readNumber text = some number ↔ Denotes text number := by
  obtain ⟨page, -, -, written⟩ := gives
  exact readNumber_eq_some_iff.trans (and_iff_right written)

theorem Denotes.unique {text : String} {first second : UInt64} (denotes : Denotes text first)
    (too : Denotes text second) : first = second :=
  UInt64.toNat_inj.mp (denotes.value.symm.trans too.value)

theorem Gives.unique {first second : String} (gives : Gives query part first)
    (too : Gives query part second) : first = second := by
  obtain ⟨page, paged, present, -⟩ := gives
  obtain ⟨other, pagedToo, presentToo, -⟩ := too
  cases paged.symm.trans pagedToo
  exact Option.some.inj (present.symm.trans presentToo)

/-- A page asks for one number only. -/
theorem PageNumber.unique {first second : UInt64} (asked : PageNumber query first)
    (too : PageNumber query second) : first = second := by
  cases asked with
  | first ungiven =>
    cases too with
    | first => rfl
    | given gives => exact absurd gives (ungiven _)
  | given gives denotes =>
    cases too with
    | first ungiven => exact absurd gives (ungiven _)
    | given givesToo denotesToo =>
      cases gives.unique givesToo
      exact denotes.unique denotesToo

/-- What is not given reads as nothing. -/
private theorem readsTo_of_ungiven (ungiven : ∀ text, ¬ Gives query part text)
    {read : Option UInt64} : ReadsTo query part maximum read ↔ read = none := by
  constructor
  · intro reads
    cases reads with
    | nothing => rfl
    | number gives => exact absurd gives (ungiven _)
  · rintro rfl
    exact .nothing ungiven

private theorem not_gives_of_unpaged (unpaged : query.page = none) (text : String) :
    ¬ Gives query part text := by
  rintro ⟨page, paged, -⟩
  cases unpaged.symm.trans paged

/-- A value is read or refused, and is refused only for a text that has no number or one above the
maximum. -/
theorem readsTo_or_refused (query : Query) (part : Page → Option String)
    (maximum : Option UInt64) :
    (∃ number, ReadsTo query part maximum number) ∨ ∃ text, Gives query part text ∧
      ((∀ number, ¬ Denotes text number) ∨
        ∃ number bound, Denotes text number ∧ maximum = some bound ∧ bound < number) := by
  by_cases given : ∃ text, Gives query part text
  · obtain ⟨text, gives⟩ := given
    by_cases readable : ∃ number, Denotes text number
    · obtain ⟨number, denotes⟩ := readable
      by_cases bounded : AtMost maximum number
      · exact .inl ⟨some number, .number gives denotes bounded⟩
      · obtain ⟨bound, limited, above⟩ : ∃ bound, maximum = some bound ∧ ¬ number ≤ bound := by
          simpa [AtMost] using bounded
        exact .inr ⟨text, gives, .inr ⟨number, bound, denotes, limited, UInt64.not_le.mp above⟩⟩
    · exact .inr ⟨text, gives, .inl (not_exists.mp readable)⟩
  · exact .inl ⟨none, .nothing (not_exists.mp given)⟩

/-! Readers -/

theorem gives_iff {page : Page} (paged : query.page = some page) {text : String} :
    Gives query part text ↔ given (part page) = some text := by
  simp [Gives, paged, given, Option.filter_eq_some_iff]

theorem not_gives {page : Page} (paged : query.page = some page)
    (absent : given (part page) = none) (text : String) : ¬ Gives query part text := by
  rw [gives_iff paged, absent]
  exact nofun

private theorem atMost_eq_ok_iff {fault : UInt64 → PageError} {number read : UInt64} :
    atMost maximum fault number = .ok read ↔ AtMost maximum number ∧ number = read := by
  cases maximum with
  | none => simp [atMost, AtMost]
  | some bound =>
    by_cases above : bound < number
    · simp [atMost, AtMost, above, UInt64.not_le.mpr above]
    · simp [atMost, AtMost, above, UInt64.not_lt.mp above]

/-- A given value is read exactly when it denotes a number within the maximum. -/
private theorem bounded_eq_ok_iff {text : String} (gives : Gives query part text)
    (fault : UInt64 → PageError) (refusal : PageError) {read : Option UInt64} :
    ((readNumber text).elim (.error refusal) fun number => (atMost maximum fault number).map some) =
      .ok read ↔ ReadsTo query part maximum read := by
  constructor
  · intro accepted
    cases denoted : readNumber text with
    | none =>
      rw [denoted] at accepted
      cases accepted
    | some number =>
      rw [denoted] at accepted
      obtain ⟨checked, within, rfl⟩ := map_eq_ok_iff.mp accepted
      obtain ⟨bounded, rfl⟩ := atMost_eq_ok_iff.mp within
      exact .number gives ((readNumber_of_gives gives).mp denoted) bounded
  · intro reads
    cases reads with
    | nothing ungiven => exact absurd gives (ungiven text)
    | number other denotes bounded =>
      cases gives.unique other
      rw [(readNumber_of_gives gives).mpr denotes]
      exact map_eq_ok_iff.mpr ⟨_, atMost_eq_ok_iff.mpr ⟨bounded, rfl⟩, rfl⟩

private theorem readLimit_eq_ok_iff {page : Page} (paged : query.page = some page)
    {limit : Option UInt64} :
    readLimit maximum page = .ok limit ↔ ReadsTo query Page.limit maximum limit := by
  cases found : given page.limit with
  | none =>
    rw [readsTo_of_ungiven (not_gives paged found), readLimit, found]
    constructor
    · rintro ⟨⟩
      rfl
    · rintro rfl
      rfl
  | some text =>
    have gives : Gives query Page.limit text := (gives_iff paged).mpr found
    rw [← bounded_eq_ok_iff gives .limitTooLarge (.invalidLimit text), readLimit, found]
    dsimp only
    cases readNumber text <;> rfl

/-- An offset is read only beside a limit. -/
private theorem readOffset_eq_ok_iff {page : Page} (paged : query.page = some page)
    {limit offset : Option UInt64} :
    readOffset maximum limit page = .ok offset ↔
      ReadsTo query Page.offset maximum offset ∧ (offset ≠ none → limit ≠ none) := by
  cases found : given page.offset with
  | none =>
    rw [readsTo_of_ungiven (not_gives paged found), readOffset, found]
    constructor
    · rintro ⟨⟩
      exact ⟨rfl, fun impossible => absurd rfl impossible⟩
    · rintro ⟨rfl, -⟩
      rfl
  | some text =>
    have gives : Gives query Page.offset text := (gives_iff paged).mpr found
    cases limit with
    | none =>
      rw [readOffset, found]
      constructor
      · rintro ⟨⟩
      · rintro ⟨reads, beside⟩
        cases reads with
        | nothing ungiven => exact absurd gives (ungiven text)
        | number => exact absurd rfl (beside (Option.some_ne_none _))
    | some limit =>
      rw [and_iff_left fun _ => Option.some_ne_none limit,
        ← bounded_eq_ok_iff gives .offsetTooLarge (.invalidOffset text), readOffset, found]
      dsimp only
      cases readNumber text <;> rfl

/-! Rules -/

/-- A page by limit and offset has an effect exactly when both values are in order, and there is no
offset without a limit. -/
theorem limitOffset_eq_ok_iff {maxLimit maxOffset : Option UInt64} {result : Effect} :
    (limitOffset maxLimit maxOffset).effect query = .ok result ↔
      ∃ limit offset, ReadsTo query Page.limit maxLimit limit ∧
        ReadsTo query Page.offset maxOffset offset ∧ (offset ≠ none → limit ≠ none) ∧
        result = { limit, offset } := by
  rw [effect]
  cases paged : query.page with
  | none =>
    simp only [readsTo_of_ungiven (not_gives_of_unpaged paged)]
    constructor
    · rintro ⟨⟩
      exact ⟨none, none, rfl, rfl, id, rfl⟩
    · rintro ⟨_, _, rfl, rfl, -, rfl⟩
      rfl
  | some page =>
    simp only [offsetEffect, mapError_eq_ok_iff, bind_eq_ok_iff, map_eq_ok_iff,
      readLimit_eq_ok_iff paged, readOffset_eq_ok_iff paged]
    constructor
    · rintro ⟨limit, limitReads, offset, ⟨offsetReads, beside⟩, rfl⟩
      exact ⟨limit, offset, limitReads, offsetReads, beside, rfl⟩
    · rintro ⟨limit, offset, limitReads, offsetReads, beside, rfl⟩
      exact ⟨limit, limitReads, offset, ⟨offsetReads, beside⟩, rfl⟩

/-- A value that is not given is skipped by its reader. -/
theorem given_eq_none {page : Page} (paged : query.page = some page)
    (ungiven : ∀ text, ¬ Gives query part text) : given (part page) = none := by
  cases found : given (part page) with
  | none => rfl
  | some text => exact absurd ((gives_iff paged).mpr found) (ungiven text)

theorem readLimit_of_denotes {page : Page} (paged : query.page = some page) {text : String}
    {limit : UInt64} (gives : Gives query Page.limit text) (denotes : Denotes text limit) :
    readLimit maximum page = (atMost maximum .limitTooLarge limit).map some := by
  rw [readLimit, (gives_iff paged).mp gives]
  dsimp only
  rw [(readNumber_of_gives gives).mpr denotes]

/-- A readable page number is refused only if it is zero. -/
theorem numberOffset_of_denotes {page : Page} (paged : query.page = some page) {text : String}
    {number : UInt64} (gives : Gives query Page.number text) (denotes : Denotes text number)
    (limit : UInt64) :
    numberOffset limit page =
      if number = 0 then .error (.invalidNumber text) else .ok (pageOffset limit number) := by
  rw [numberOffset, (gives_iff paged).mp gives]
  dsimp only
  rw [(readNumber_of_gives gives).mpr denotes, pageOffset]
  by_cases zero : number = 0
  · rw [if_pos zero]
    exact if_pos zero
  · by_cases first : number = 1 <;> simp [zero, first]

theorem numberOffset_of_ungiven {page : Page} (paged : query.page = some page)
    (ungiven : ∀ text, ¬ Gives query Page.number text) (limit : UInt64) :
    numberOffset limit page = .ok (pageOffset limit 1) := by
  rw [numberOffset, given_eq_none paged ungiven]
  rfl

theorem numberOffset_eq_ok_iff {page : Page} (paged : query.page = some page) {limit : UInt64}
    {offset : Option UInt64} :
    numberOffset limit page = .ok offset ↔
      ∃ number, PageNumber query number ∧ offset = pageOffset limit number := by
  constructor
  · intro read
    cases found : given page.number with
    | none =>
      have ungiven : ∀ text, ¬ Gives query Page.number text := not_gives paged found
      rw [numberOffset_of_ungiven paged ungiven] at read
      exact ⟨1, .first ungiven, (Except.ok.inj read).symm⟩
    | some text =>
      have gives : Gives query Page.number text := (gives_iff paged).mpr found
      cases denoted : readNumber text with
      | none => simp [numberOffset, found, denoted] at read
      | some number =>
        have denotes := (readNumber_of_gives gives).mp denoted
        rw [numberOffset_of_denotes paged gives denotes] at read
        by_cases zero : number = 0
        · rw [if_pos zero] at read
          cases read
        · rw [if_neg zero] at read
          exact ⟨number, .given gives denotes zero, (Except.ok.inj read).symm⟩
  · rintro ⟨number, asked, rfl⟩
    cases asked with
    | first ungiven => exact numberOffset_of_ungiven paged ungiven limit
    | given gives denotes positive =>
      rw [numberOffset_of_denotes paged gives denotes, if_neg positive]

/-- A page by limit and number has an effect exactly when it gives no limit, or both values are in
order. -/
theorem limitNumber_eq_ok_iff {result : Effect} :
    (limitNumber maximum).effect query = .ok result ↔
      ((∀ text, ¬ Gives query Page.limit text) ∧ result = {}) ∨
        ∃ limit number, Asks maximum query limit number ∧
          result = { limit := some limit, offset := pageOffset limit number } := by
  rw [effect]
  cases paged : query.page with
  | none =>
    have ungiven : ∀ text, ¬ Gives query Page.limit text := not_gives_of_unpaged paged
    constructor
    · rintro ⟨⟩
      exact .inl ⟨ungiven, rfl⟩
    · rintro (⟨-, rfl⟩ | ⟨limit, number, asks, -⟩)
      · rfl
      · cases asks.limit with
        | number gives => exact absurd gives (ungiven _)
  | some page =>
    simp only [numberEffect, mapError_eq_ok_iff, bind_eq_ok_iff, readLimit_eq_ok_iff paged]
    constructor
    · rintro ⟨limit, reads, rest⟩
      cases limit with
      | none =>
        cases reads with
        | nothing ungiven => exact .inl ⟨ungiven, (Except.ok.inj rest).symm⟩
      | some limit =>
        obtain ⟨offset, read, rfl⟩ := map_eq_ok_iff.mp rest
        obtain ⟨number, asked, rfl⟩ := (numberOffset_eq_ok_iff paged).mp read
        exact .inr ⟨limit, number, ⟨reads, asked⟩, rfl⟩
    · rintro (⟨ungiven, rfl⟩ | ⟨limit, number, asks, rfl⟩)
      · exact ⟨none, .nothing ungiven, rfl⟩
      · have read : numberOffset limit page = .ok (pageOffset limit number) :=
          (numberOffset_eq_ok_iff paged).mpr ⟨number, asks.number, rfl⟩
        exact ⟨some limit, asks.limit, map_eq_ok_iff.mpr ⟨_, read, rfl⟩⟩

/-- A page by limit and number that has an effect gives a limit in order, or has none. -/
theorem limit_of_limitNumber {maxLimit : Option UInt64} {result : Effect}
    (read : (limitNumber maxLimit).effect query = .ok result) :
    ReadsTo query Page.limit maxLimit result.limit ∧ result.fallback = none ∧
      (result.offset ≠ none → result.limit ≠ none) := by
  rcases limitNumber_eq_ok_iff.mp read with ⟨ungiven, rfl⟩ | ⟨limit, number, asks, rfl⟩
  · exact ⟨.nothing ungiven, rfl, id⟩
  · exact ⟨asks.limit, rfl, fun _ => Option.some_ne_none limit⟩

end QueryGate.PageRule
