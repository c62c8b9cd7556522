/-! Powers of the two bases that numbers are written in. -/
namespace QueryGate.Decimal

def powerOfTwo (exponent : Nat) : Nat := Nat.pow 2 exponent

def powerOfTen (exponent : Nat) : Nat := Nat.pow 10 exponent

end QueryGate.Decimal
