import QueryGate.Text.Quoted

/-! Directions of sorting, and the terms of an ORDER BY clause. -/
namespace QueryGate

inductive SortDirection where
  | asc
  | desc
  deriving DecidableEq

/-- A text that names no direction. -/
structure UnknownDirection where
  text : String

def UnknownDirection.message (error : UnknownDirection) : String :=
  "unknown sort direction " ++ Text.quoted error.text

namespace SortDirection

instance : Inhabited SortDirection := ⟨asc⟩

def keyword : SortDirection → String
  | asc => "ASC"
  | desc => "DESC"

/-- The name of a direction in documents. -/
def name : SortDirection → String
  | asc => "asc"
  | desc => "desc"

/-- Reads a direction; only ASCII letters have two cases here. -/
def read (text : String) : Except UnknownDirection SortDirection :=
  let lowered := text.toList.map Char.toLower
  if lowered = "asc".toList then .ok asc
  else if lowered = "desc".toList then .ok desc
  else .error ⟨text⟩

end SortDirection

/-- A column with the direction to sort it in. -/
structure SortTerm where
  column : String
  direction : SortDirection
  deriving DecidableEq

def SortTerm.text (term : SortTerm) : String := term.column ++ " " ++ term.direction.keyword

end QueryGate
