import QueryGate.Decimal.Power
import QueryGate.Text.Numeral

/-! The fewest decimal digits that read back as a binary64 number. The number is decoded into
`mantissa * 2 ^ exponent`; the reals that round to it form an interval, whose ends belong to it
when the mantissa is even. For one, two, … seventeen digits the two neighbours of the number on
that decimal grid are tested exactly, and the first grid with a hit decides. -/
namespace QueryGate.Decimal

/-- What the bits of a binary64 number denote. -/
inductive Binary where
  | nan
  | infinite (negative : Bool)
  | finite (negative : Bool) (mantissa : Nat) (exponent : Int)

def Binary.ofFloat (x : Float) : Binary :=
  let bits := x.toBits.toNat
  let negative := bits / powerOfTwo 63 = 1
  let biased : Nat := bits / powerOfTwo 52 % 2048
  let fraction := bits % powerOfTwo 52
  if biased = 2047 then if fraction = 0 then .infinite negative else .nan
  else if biased = 0 then .finite negative fraction (-1074)
  else .finite negative (powerOfTwo 52 + fraction) ((biased : Int) - 1075)

/-- Digits `d₁d₂…dₙ` and a point `p` denote `0.d₁d₂…dₙ · 10 ^ p`. No digits denote zero. -/
structure Digits where
  digits : List Char
  point : Int

/-- Where a number halfway between two candidates goes. -/
inductive Tie where
  | up
  | even

/-- A positive rational by numerator and denominator, with the interval that rounds to it, all
three over the one denominator. -/
structure Interval where
  low : Nat
  value : Nat
  high : Nat
  unit : Nat
  closed : Bool

/-- The numbers next to a power of two lie half as far below it as above. -/
def Interval.ofBinary (mantissa : Nat) (exponent : Int) : Interval :=
  let below := if mantissa = powerOfTwo 52 ∧ exponent ≠ -1074 then 1 else 2
  let scale := powerOfTwo (exponent - 2).toNat
  ⟨(4 * mantissa - below) * scale, 4 * mantissa * scale, (4 * mantissa + 2) * scale,
    powerOfTwo (2 - exponent).toNat, mantissa % 2 = 0⟩

/-- The least `p` with `value < 10 ^ p`; no binary64 number lies below `10 ^ (-400)`. -/
def Interval.point (i : Interval) : Int :=
  (Text.decimal (i.value * powerOfTen 400 / i.unit)).length - 400

/-- Compares the grid point `index * 10 ^ power` with `bound`, a numerator over the unit. -/
def Interval.compareAt (i : Interval) (index : Nat) (power : Int) (bound : Nat) : Ordering :=
  compare (index * powerOfTen power.toNat * i.unit) (bound * powerOfTen (-power).toNat)

def Interval.holds (i : Interval) (index : Nat) (power : Int) : Bool :=
  match i.compareAt index power i.low, i.compareAt index power i.high with
  | .gt, .lt => true
  | .eq, _ | _, .eq => i.closed
  | _, _ => false

/-- The grid point below the value, and whether the next one is at least as near. -/
def Interval.candidate? (i : Interval) (tie : Tie) (power : Int) : Option Nat :=
  let index := i.value * powerOfTen (-power).toNat / (i.unit * powerOfTen power.toNat)
  match i.holds index power, i.holds (index + 1) power with
  | true, false => some index
  | false, true => some (index + 1)
  | false, false => none
  | true, true =>
    match i.compareAt (2 * index + 1) power (2 * i.value) with
    | .gt => some index
    | .lt => some (index + 1)
    | .eq => match tie with
      | .up => some (index + 1)
      | .even => some (if index % 2 = 0 then index else index + 1)

/-- Drops the zeros at the end, which the point makes redundant. -/
def Digits.ofGrid (index : Nat) (power : Int) : Digits :=
  let digits := Text.decimal index
  ⟨(digits.reverse.dropWhile (· = '0')).reverse, digits.length + power⟩

/-- The shortest digits of a magnitude. Seventeen digits always suffice. -/
def shortest (tie : Tie) (mantissa : Nat) (exponent : Int) : Digits :=
  if mantissa = 0 then ⟨[], 1⟩
  else
    let i := Interval.ofBinary mantissa exponent
    let point := i.point
    let hit := (List.range 17).findSome? fun (n : Nat) =>
      let power := point - (n + 1)
      (i.candidate? tie power).map (Digits.ofGrid · power)
    hit.getD ⟨[], 1⟩

end QueryGate.Decimal
