import QueryGate.Value

/-! Comparison of values. Kinds are ordered first; within a kind, numbers are compared as
numbers, texts by their code points and blobs by their bytes. A NaN equals nothing and is not
ordered with any real. -/
namespace QueryGate.Value

/-- The place of a value's kind. -/
def rank : Value → Nat
  | null => 0
  | bool _ => 1
  | integer _ => 2
  | real _ => 3
  | text _ => 4
  | blob _ => 5

def equal : Value → Value → Bool
  | null, null => true
  | bool a, bool b => a == b
  | integer a, integer b => a == b
  | real a, real b => a == b
  | text a, text b => a == b
  | blob a, blob b => a == b
  | _, _ => false

/-- The order of two reals, if they have one. -/
def orderReals (a b : Float) : Option Ordering :=
  if a < b then some .lt else if a == b then some .eq else if b < a then some .gt else none

/-- The order of two byte sequences: the first difference decides, and a beginning comes before
the whole. -/
def orderBytes : List UInt8 → List UInt8 → Ordering
  | [], [] => .eq
  | [], _ :: _ => .lt
  | _ :: _, [] => .gt
  | a :: as, b :: bs => (Ord.compare a b).then (orderBytes as bs)

def order : Value → Value → Option Ordering
  | bool a, bool b => some (Ord.compare a b)
  | integer a, integer b => some (Ord.compare a.toInt b.toInt)
  | real a, real b => orderReals a b
  | text a, text b => some (Ord.compare a b)
  | blob a, blob b => some (orderBytes a b)
  | a, b => some (Ord.compare a.rank b.rank)

end QueryGate.Value
