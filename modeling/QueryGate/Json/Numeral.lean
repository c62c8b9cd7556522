import QueryGate.Text.Numeral

/-! Numbers as JSON writes them, and the reals they are read as. -/
namespace QueryGate.Json

/-- The parts of a written number. An exponent is negative if its flag is set. -/
structure Numeral where
  negative : Bool
  whole : List Char
  fraction : Option (List Char)
  exponent : Option (Bool × List Char)

namespace Numeral

/-- One or more digits at the head of a text. -/
def readDigits (text : List Char) : Option (List Char × List Char) :=
  let digits := text.takeWhile Char.isDigit
  if digits.isEmpty then none else some (digits, text.dropWhile Char.isDigit)

/-- The digits before the point; a zero stands alone. -/
def readWhole (text : List Char) : Option (List Char × List Char) := do
  let (digits, rest) ← readDigits text
  if digits.head? = some '0' ∧ digits.length ≠ 1 then none else some (digits, rest)

def readFraction : List Char → Option (Option (List Char) × List Char)
  | '.' :: rest => (readDigits rest).map fun (digits, rest) => (some digits, rest)
  | text => some (none, text)

def readExponent : List Char → Option (Option (Bool × List Char) × List Char)
  | c :: rest =>
    if c = 'e' ∨ c = 'E' then
      let (negative, rest) := match rest with
        | '+' :: rest => (false, rest)
        | '-' :: rest => (true, rest)
        | rest => (false, rest)
      (readDigits rest).map fun (digits, rest) => (some (negative, digits), rest)
    else some (none, c :: rest)
  | [] => some (none, [])

def readSign : List Char → Bool × List Char
  | '-' :: rest => (true, rest)
  | text => (false, text)

/-- The number at the head of a text, with what follows it. -/
def read (text : List Char) : Option (Numeral × List Char) := do
  let (negative, text) := readSign text
  let (whole, text) ← readWhole text
  let (fraction, text) ← readFraction text
  let (exponent, text) ← readExponent text
  return (⟨negative, whole, fraction, exponent⟩, text)

/-- The integer that is written, if neither a fraction nor an exponent is. The zero with a minus
sign is a real. -/
def integer? (n : Numeral) : Option Int :=
  if n.fraction.isSome ∨ n.exponent.isSome then none
  else
    let magnitude := Text.ofDigits n.whole
    if n.negative then if magnitude = 0 then none else some (-magnitude)
    else some magnitude

/-- A significand in 64 bits with a power of ten. -/
structure Scaled where
  significand : Nat
  power : Int

/-- Appends digits while the significand stays in 64 bits. `dropped` is what each digit that no
longer fits adds to the power, and `kept` what each one that fits adds. -/
def Scaled.append (scaled : Scaled) (kept dropped : Int) (digits : List Char) : Scaled :=
  let step := fun (state : Scaled × Bool) (c : Char) =>
    let longer := state.1.significand * 10 + Text.digitValue c
    if state.2 ∧ longer < UInt64.size then (⟨longer, state.1.power + kept⟩, true)
    else (⟨state.1.significand, state.1.power + dropped⟩, false)
  (digits.foldl step (scaled, true)).1

/-- The digits without the exponent. -/
def scaled (n : Numeral) : Scaled :=
  ((Scaled.mk 0 0).append 0 1 n.whole).append (-1) 0 (n.fraction.getD [])

/-- A number times a power of ten, in steps that a real can hold; none beyond the largest one. -/
def scale (x : Float) (power : Int) : Option Float :=
  if 308 < power then if x == 0 then some x else none
  else if 0 ≤ power then
    let scaled := x * Float.ofScientific 1 false power.toNat
    if scaled.isInf then none else some scaled
  else if -308 ≤ power then some (x / Float.ofScientific 1 false power.natAbs)
  else if x == 0 then some x
  else scale (x / 1e308) (power + 308)
  termination_by power.natAbs
  decreasing_by omega

/-- The real that a number is read as; none if it is too large. -/
def real? (n : Numeral) : Option Float := do
  let scaled := n.scaled
  let power := match n.exponent with
    | none => scaled.power
    | some (negative, digits) =>
      let exponent : Int := Text.ofDigits digits
      if negative then scaled.power - exponent else scaled.power + exponent
  let magnitude ← scale (UInt64.ofNat scaled.significand).toFloat power
  return if n.negative then -magnitude else magnitude

end Numeral

end QueryGate.Json
