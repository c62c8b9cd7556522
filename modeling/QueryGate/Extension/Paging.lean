import QueryGate.Extension
import QueryGate.Text.Numeral

/-! Pages. A page value counts as given when it is present and not empty, and must then be a
decimal number below `2 ^ 32`. -/
namespace QueryGate

/-- The built-in extensions. -/
inductive PageRule where
  /-- A limit for statements that have none. -/
  | defaultLimit (limit : UInt64)
  /-- The limit and the offset of the page, each with an optional maximum. -/
  | limitOffset (maxLimit maxOffset : Option UInt64)
  /-- The limit of the page and its number, counted from one. -/
  | limitNumber (maxLimit : Option UInt64)

namespace PageRule

/-- A page value that counts. -/
def given (value : Option String) : Option String := value.filter (· ≠ "")

/-- Reads a decimal number below `2 ^ 32`. Leading zeros are fine, but there must be a digit. -/
def readNumber (text : String) : Option UInt64 :=
  if text ≠ "" ∧ text.toList.all Char.isDigit ∧ Text.ofDigits text.toList < UInt32.size then
    some (.ofNat (Text.ofDigits text.toList))
  else none

/-- Refuses a number above a maximum. -/
def atMost (maximum : Option UInt64) (fault : UInt64 → PageError) (number : UInt64) :
    Except PageError UInt64 :=
  match maximum with
  | some maximum => if maximum < number then .error (fault maximum) else .ok number
  | none => .ok number

/-- The limit of a page, if it is given. -/
def readLimit (maximum : Option UInt64) (page : Page) : Except PageError (Option UInt64) :=
  match given page.limit with
  | none => .ok none
  | some text =>
    match readNumber text with
    | none => .error (.invalidLimit text)
    | some limit => (atMost maximum .limitTooLarge limit).map some

/-- The offset that a page gives, which needs a limit beside it. -/
def readOffset (maximum : Option UInt64) (limit : Option UInt64) (page : Page) :
    Except PageError (Option UInt64) :=
  match given page.offset with
  | none => .ok none
  | some text =>
    match limit, readNumber text with
    | none, _ => .error .offsetWithoutLimit
    | some _, none => .error (.invalidOffset text)
    | some _, some offset => (atMost maximum .offsetTooLarge offset).map some

/-- The offset of a numbered page. The first page leaves the offset as it is. Both factors are
below `2 ^ 32`, so the product is exact. -/
def numberOffset (limit : UInt64) (page : Page) : Except PageError (Option UInt64) :=
  match given page.number with
  | none => .ok none
  | some text =>
    match readNumber text with
    | none => .error (.invalidNumber text)
    | some number =>
      if number = 0 then .error (.invalidNumber text)
      else if number = 1 then .ok none
      else .ok (some (limit * (number - 1)))

/-- Sets the offset that was read; a fault leaves the statement as it is. -/
def finish (select : Select) (offset : Except PageError (Option UInt64)) : Outcome :=
  match offset with
  | .error error => .failed select (.page error)
  | .ok none => .done select
  | .ok (some offset) => .done (select.setOffset offset)

/-- Applies a page by limit and offset. -/
def applyOffset (maxLimit maxOffset : Option UInt64) (page : Page) (select : Select) : Outcome :=
  match readLimit maxLimit page with
  | .error error => .failed select (.page error)
  | .ok none => finish select (readOffset maxOffset none page)
  | .ok (some limit) =>
    finish (select.setLimit limit) (readOffset maxOffset (some limit) page)

/-- Applies a page by limit and number. Without a limit the number is ignored. -/
def applyNumber (maxLimit : Option UInt64) (page : Page) (select : Select) : Outcome :=
  match readLimit maxLimit page with
  | .error error => .failed select (.page error)
  | .ok none => .done select
  | .ok (some limit) => finish (select.setLimit limit) (numberOffset limit page)

/-- The extension that a rule stands for. A query without a page is not paged. -/
def extension (rule : PageRule) : Extension := fun _ query select =>
  match rule with
  | defaultLimit limit => .done (if select.limit.isNone then select.setLimit limit else select)
  | limitOffset maxLimit maxOffset =>
    match query.page with
    | none => .done select
    | some page => applyOffset maxLimit maxOffset page select
  | limitNumber maxLimit =>
    match query.page with
    | none => .done select
    | some page => applyNumber maxLimit page select

end PageRule

end QueryGate
