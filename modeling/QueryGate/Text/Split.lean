/-! Cutting texts into pieces: once at a character, or at every occurrence of a separator. -/
namespace QueryGate.Text

/-- Cuts at the first occurrence of a character, which belongs to neither side. -/
def cutAt (mark : Char) : List Char → Option (List Char × List Char)
  | [] => none
  | c :: rest =>
    if c = mark then some ([], rest)
    else (cutAt mark rest).map fun (before, after) => (c :: before, after)

/-- Cuts at every occurrence of a separator, from left to right and without overlaps. An empty
separator occurs nowhere. -/
def splitOn (separator : List Char) (text : List Char) : List (List Char) :=
  match text with
  | [] => [[]]
  | c :: rest =>
    if separator ≠ [] ∧ separator.isPrefixOf (c :: rest) then
      [] :: splitOn separator (rest.drop (separator.length - 1))
    else (splitOn separator rest).modifyHead (c :: ·)
  termination_by text.length
  decreasing_by
    · simp only [List.length_drop, List.length_cons]; omega
    · exact Nat.lt_succ_self _

end QueryGate.Text
