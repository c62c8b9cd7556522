import QueryGate.Decimal.Power
import QueryGate.Text.Split
import QueryGate.Toml.DateTime
import QueryGate.Toml.Quoted

/-! Scalars of TOML that stand without quotes: truth values, numbers, dates and times. Of a number
only the notation is checked at first, so one that is too large, or that has no digits where they
belong, is refused only where it is looked at. No setting takes a real, so its value is not kept. -/
namespace QueryGate.Toml

/-- A number by its notation. -/
inductive Number where
  | integer (value : Int)
  | real
  /-- A number in form alone. -/
  | malformed
  deriving DecidableEq

/-- Whether every underscore stands between two digits, when `before` precedes the text. -/
def underscoresBetween (isDigit : Char → Bool) (before : Char) : List Char → Bool
  | [] => true
  | c :: rest =>
    (c ≠ '_' || (isDigit before && (rest.head?.map isDigit).getD false))
      && underscoresBetween isDigit c rest

/-- Whether every underscore of a text stands between two digits. -/
def underscoresFit (isDigit : Char → Bool) (text : List Char) : Bool :=
  underscoresBetween isDigit '_' text

def withoutUnderscores (text : List Char) : List Char := text.filter (· ≠ '_')

/-- An integer whose base has been marked. -/
def integerIn? (base : Nat) (isDigit : Char → Bool) (digits : List Char) : Option Number :=
  if digits.all (fun c => isDigit c || c = '_') && underscoresFit isDigit digits then
    let digits := withoutUnderscores digits
    some (if digits.isEmpty then .malformed else .integer (Text.ofDigitsIn base digits))
  else none

/-- Whether `digits * 10 ^ power` rounds to a finite real. -/
def isFinite (digits : Nat) (power : Int) : Bool :=
  let bound := Decimal.powerOfTwo 1024 - Decimal.powerOfTwo 970
  let size : Int := (Text.decimal digits).length + power
  if digits = 0 ∨ size < 309 then true
  else if 309 < size then false
  else digits * Decimal.powerOfTen power.toNat < bound * Decimal.powerOfTen (-power).toNat

/-- One or more digits. -/
def digits? (text : List Char) : Option (List Char) :=
  if text.isEmpty || !text.all Char.isDigit then none else some text

/-- The value of an exponent, whose digits may begin with zeros. -/
def exponent? : List Char → Option Int
  | '+' :: text => (digits? text).map fun digits => (Text.ofDigits digits : Int)
  | '-' :: text => (digits? text).map fun digits => -(Text.ofDigits digits : Int)
  | text => (digits? text).map fun digits => (Text.ofDigits digits : Int)

/-- One or more digits, of which the first is a zero only if it is the last too. -/
def whole? (text : List Char) : Option (List Char) :=
  (digits? text).filter fun digits => digits.head? ≠ some '0' || digits = ['0']

/-- The digits before and after the point, if there is one. -/
def mantissa? (text : List Char) : Option (List Char × List Char) :=
  match Text.cutAt '.' text with
  | none => (whole? text).map (·, [])
  | some (whole, fraction) => (whole? whole).bind fun whole => (digits? fraction).map (whole, ·)

/-- A number without its sign, with a fraction, an exponent or both. -/
def real? (text : List Char) : Option Number := do
  let (mantissa, exponent) ← match Text.cutAt 'e' (text.map Char.toLower) with
    | none => some (text, 0)
    | some (mantissa, exponent) => (exponent? exponent).map (mantissa, ·)
  let (whole, fraction) ← mantissa? mantissa
  if isFinite (Text.ofDigits (whole ++ fraction)) (exponent - fraction.length) then some .real
  else some .malformed

/-- An integer without its sign. It begins with a digit, and with a zero only if that is all. What
follows its first underscore has no space and is not checked for digits, the neighbours of
underscores apart. -/
def decimalInteger? (negative : Bool) (text : List Char) : Option Number :=
  let rest := text.dropWhile Char.isDigit
  if (rest.isEmpty || rest.head? = some '_') && !rest.contains ' '
      && underscoresFit Text.isHexDigit text
      && (text.head? ≠ some '0' || text = ['0']) && !text.isEmpty then
    let digits := withoutUnderscores text
    let magnitude : Int := Text.ofDigits digits
    some (if !digits.all Char.isDigit then .malformed
      else .integer (if negative then -magnitude else magnitude))
  else none

/-- A decimal number without its sign. A point or an exponent makes it a real. -/
def decimal? (negative : Bool) (text : List Char) : Option Number :=
  if text.any fun c => c = '.' || c = 'e' || c = 'E' then
    if underscoresFit Char.isDigit text then real? (withoutUnderscores text) else none
  else decimalInteger? negative text

/-- A number. Infinity and the undefined number have names. -/
def number? : List Char → Option Number
  | '0' :: 'x' :: rest => integerIn? 16 Text.isHexDigit rest
  | '0' :: 'o' :: rest => integerIn? 8 (fun c => '0' ≤ c ∧ c ≤ '7') rest
  | '0' :: 'b' :: rest => integerIn? 2 (fun c => c = '0' ∨ c = '1') rest
  | '+' :: rest => if isNamed rest then some .real else decimal? false rest
  | '-' :: rest => if isNamed rest then some .real else decimal? true rest
  | text => if isNamed text then some .real else decimal? false text
where
  isNamed (text : List Char) : Bool := text = "inf".toList || text = "nan".toList

/-- Integers beyond 64 bits may be passed over, and those beyond 128 bits may not. -/
def Number.document : Number → Document
  | integer i =>
    if 0 ≤ i ∧ i < UInt64.size then .natural (.ofNat i.toNat)
    else if Int64.minValue.toInt ≤ i ∧ i < 0 then .other
    else if -(Decimal.powerOfTwo 127 : Int) ≤ i ∧ i < Decimal.powerOfTwo 128 then .unreadable
    else .malformed
  | real => .other
  | malformed => .malformed

/-- What a scalar without quotes says. -/
def scalarDocument (text : List Char) : Option Document :=
  if text = "true".toList then some (.bool true)
  else if text = "false".toList then some (.bool false)
  else match DateTime.read text with
    | some moment => some moment.document
    | none => (number? text).map Number.document

/-- What a scalar is made of: neither a line end nor a comment or a delimiter. -/
def isScalarChar (c : Char) : Bool := !"\r\n#=,[]\x7b\x7d".toList.contains c

/-- Whether a quote follows a blank, as if a string began there. -/
def hasString : List Char → Bool
  | blank :: quote :: rest =>
    (isSpace blank && (quote = '"' || quote = '\x27')) || hasString (quote :: rest)
  | _ => false

/-- The scalar at the head of a text. Blanks may stand inside, as between a date and a time, and
those at its end do not belong to it. -/
def readScalar (text : List Char) : Option (Document × List Char) :=
  let line := text.takeWhile isScalarChar
  let scalar := (line.reverse.dropWhile isSpace).reverse
  if hasString line then none
  else (scalarDocument scalar).map (·, text.drop scalar.length)

end QueryGate.Toml
