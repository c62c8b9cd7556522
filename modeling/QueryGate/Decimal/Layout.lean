import QueryGate.Decimal.Shortest

/-! How the digits of a number are laid out: with a point in its place, or with an exponent. The
choices of one output are a value of `Layout`, kept beside that output. -/
namespace QueryGate.Decimal

/-- The choices of one written form of numbers. The leading exponent of `d₁.d₂…dₙ · 10 ^ e` is
`e`; numbers whose leading exponent lies between the bounds are written with a point. -/
structure Layout where
  tie : Tie
  lowest : Option Int
  highest : Option Int
  /-- What ends a number that is written with a point and has no fraction. -/
  whole : String
  /-- What stands before an exponent that is not negative. -/
  exponentMark : String
  nan : String
  infinity : String
  negativeInfinity : String

/-- Whether a leading exponent is written with a point. -/
def Layout.positional (layout : Layout) (exponent : Int) : Bool :=
  layout.lowest.all (· ≤ exponent) && layout.highest.all (exponent ≤ ·)

def zeros (n : Nat) : List Char := List.replicate n '0'

/-- Digits with a point in its place, padded with zeros to reach it. -/
def Layout.withPoint (layout : Layout) (d : Digits) : String :=
  if d.point ≤ 0 then String.ofList ('0' :: '.' :: zeros d.point.natAbs ++ d.digits)
  else
    let whole := d.digits.take d.point.toNat ++ zeros (d.point.toNat - d.digits.length)
    match d.digits.drop d.point.toNat with
    | [] => String.ofList whole ++ layout.whole
    | fraction => String.ofList (whole ++ '.' :: fraction)

/-- One digit before the point, and an exponent. -/
def Layout.withExponent (layout : Layout) (d : Digits) : String :=
  let lead := match d.digits with
    | first :: second :: rest => first :: '.' :: second :: rest
    | digits => digits
  let exponent := d.point - 1
  let mark := if exponent < 0 then "e-" else layout.exponentMark
  String.ofList lead ++ mark ++ Text.natural exponent.natAbs

def Layout.write (layout : Layout) (x : Float) : String :=
  match Binary.ofFloat x with
  | .nan => layout.nan
  | .infinite negative => if negative then layout.negativeInfinity else layout.infinity
  | .finite negative mantissa exponent =>
    let digits := shortest layout.tie mantissa exponent
    let sign := if negative then "-" else ""
    if mantissa = 0 ∨ layout.positional (digits.point - 1) then
      sign ++ layout.withPoint (if mantissa = 0 then ⟨['0'], 1⟩ else digits)
    else sign ++ layout.withExponent digits

end QueryGate.Decimal
