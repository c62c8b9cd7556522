/-! Sets of code points. A set is kept as the points at which membership changes, in rising
order, so a code point belongs to it when an odd number of these points lie at or below it.
The tables of the sibling modules are written as run lengths, alternately outside and inside. -/
namespace QueryGate.Unicode

/-- A set of code points, given by the points where membership changes. -/
structure Ranges where
  changes : Array Nat

/-- The decimal numbers of a line, in order; every other character separates. -/
def lineNumerals (line : String) : List Nat :=
  let step := fun (current, found) (c : Char) =>
    if c.isDigit then (some (current.getD 0 * 10 + (c.toNat - '0'.toNat)), found)
    else (none, found ++ current.toList.toArray)
  let (current, found) := line.toList.foldl step ((none : Option Nat), (#[] : Array Nat))
  found.toList ++ current.toList

/-- The decimal numbers of several lines. -/
def numerals (lines : List String) : List Nat := lines.flatMap lineNumerals

/-- Reads run lengths, the first one outside the set. -/
def Ranges.ofRuns (lines : List String) : Ranges :=
  let step := fun (total, points) (length : Nat) => (total + length, points.push (total + length))
  ⟨((numerals lines).foldl step ((0 : Nat), (#[] : Array Nat))).2⟩

def Ranges.contains (ranges : Ranges) (c : Char) : Bool :=
  ranges.changes.foldl (fun inside point => if point ≤ c.toNat then !inside else inside) false

end QueryGate.Unicode
