import QueryGate.Document
import QueryGate.Text.Numeral

/-! Dates and times of TOML: a date, a time of day, or both with an optional distance from
universal time. Seconds that are left out are zero, and of a fraction nine digits count. -/
namespace QueryGate.Toml

structure Date where
  year : Nat
  month : Nat
  day : Nat
  deriving DecidableEq

structure TimeOfDay where
  hour : Nat
  minute : Nat
  second : Nat
  nanosecond : Nat
  deriving DecidableEq

/-- The distance of a zone from universal time. -/
inductive Zone where
  | universal
  /-- Minutes east. -/
  | shifted (minutes : Int)
  deriving DecidableEq

inductive DateTime where
  | date (date : Date)
  | time (time : TimeOfDay)
  | both (date : Date) (time : TimeOfDay) (zone : Option Zone)
  deriving DecidableEq

/-- A number of two digits between bounds, and what follows. -/
def twoDigits? (low high : Nat) : List Char → Option (Nat × List Char)
  | a :: b :: rest =>
    let number := Text.ofDigits [a, b]
    if a.isDigit ∧ b.isDigit ∧ low ≤ number ∧ number ≤ high then some (number, rest) else none
  | _ => none

/-- Takes one of several characters away. -/
def dropOneOf (choices : List Char) : List Char → Option (List Char)
  | c :: rest => if choices.contains c then some rest else none
  | [] => none

/-- How many days a month has. -/
def daysIn (year month : Nat) : Nat :=
  if month = 2 then
    if year % 4 = 0 ∧ (year % 100 ≠ 0 ∨ year % 400 = 0) then 29 else 28
  else if month = 4 ∨ month = 6 ∨ month = 9 ∨ month = 11 then 30
  else 31

/-- The date at the head of a text, with four digits for the year. -/
def readDate (text : List Char) : Option (Date × List Char) := do
  let (century, text) ← twoDigits? 0 99 text
  let (year, text) ← twoDigits? 0 99 text
  let text ← dropOneOf ['-'] text
  let (month, text) ← twoDigits? 1 12 text
  let text ← dropOneOf ['-'] text
  let year := century * 100 + year
  let (day, text) ← twoDigits? 1 (daysIn year month) text
  return (⟨year, month, day⟩, text)

/-- Hours and minutes at the head of a text. -/
def readMinutes (text : List Char) : Option (Nat × Nat × List Char) := do
  let (hour, text) ← twoDigits? 0 23 text
  let text ← dropOneOf [':'] text
  let (minute, text) ← twoDigits? 0 59 text
  return (hour, minute, text)

/-- The nanoseconds that the digits of a fraction stand for. -/
def nanoseconds (digits : List Char) : Nat :=
  Text.ofDigits ((digits ++ List.replicate 9 '0').take 9)

/-- The time of day at the head of a text. A minute may have a leap second. -/
def readTime (text : List Char) : Option (TimeOfDay × List Char) := do
  match ← readMinutes text with
  | (hour, minute, ':' :: rest) =>
    match ← twoDigits? 0 60 rest with
    | (second, '.' :: rest) =>
      let fraction := rest.takeWhile Char.isDigit
      if fraction.isEmpty then none
      else some (⟨hour, minute, second, nanoseconds fraction⟩, rest.dropWhile Char.isDigit)
    | (second, rest) => some (⟨hour, minute, second, 0⟩, rest)
  | (hour, minute, rest) => some (⟨hour, minute, 0, 0⟩, rest)

/-- The zone that a whole text gives, if it is not empty. -/
def readZone : List Char → Option (Option Zone)
  | [] => some none
  | ['Z'] => some (some .universal)
  | ['z'] => some (some .universal)
  | sign :: rest =>
    match readMinutes rest with
    | some (hours, minutes, []) =>
      let distance : Int := hours * 60 + minutes
      if sign = '+' then some (some (.shifted distance))
      else if sign = '-' then some (some (.shifted (-distance)))
      else none
    | _ => none

namespace DateTime

/-- Reads a whole text. -/
def read (text : List Char) : Option DateTime :=
  match readDate text with
  | none =>
    match readTime text with
    | some (clock, []) => some (time clock)
    | _ => none
  | some (day, []) => some (date day)
  | some (day, rest) => do
    let (clock, rest) ← readTime (← dropOneOf ['T', 't', ' '] rest)
    return both day clock (← readZone rest)

end DateTime

/-- The digits of a number after enough zeros for a width. -/
def padded (width n : Nat) : String :=
  let digits := Text.decimal n
  String.ofList (List.replicate (width - digits.length) '0' ++ digits)

def Date.text (date : Date) : String :=
  padded 4 date.year ++ "-" ++ padded 2 date.month ++ "-" ++ padded 2 date.day

/-- A time of day with seconds, and with a fraction only if it is not zero. -/
def TimeOfDay.text (time : TimeOfDay) : String :=
  let digits := (padded 9 time.nanosecond).toList.reverse.dropWhile (· = '0')
  let fraction := if digits.isEmpty then "" else "." ++ String.ofList digits.reverse
  padded 2 time.hour ++ ":" ++ padded 2 time.minute ++ ":" ++ padded 2 time.second ++ fraction

def Zone.text : Zone → String
  | universal => "Z"
  | shifted minutes =>
    let sign := if minutes < 0 then "-" else "+"
    sign ++ padded 2 (minutes.natAbs / 60) ++ ":" ++ padded 2 (minutes.natAbs % 60)

namespace DateTime

def text : DateTime → String
  | date day => day.text
  | time clock => clock.text
  | both day clock zone => day.text ++ "T" ++ clock.text ++ (zone.map Zone.text).getD ""

/-- The name under which a document holds the text of a date or time. -/
def fieldName : String := "$__toml_private_datetime"

/-- A date or time is a record of one entry, so it may stand where a table of texts is read. -/
def document (moment : DateTime) : Document := .record [(fieldName, .text moment.text)]

end DateTime

end QueryGate.Toml
