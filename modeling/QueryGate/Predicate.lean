import QueryGate.Error
import QueryGate.Text.Split

/-! Filter predicates: an operation, and its arguments after a delimiter, as in `in:1,2,3`. -/
namespace QueryGate

structure Predicate where
  operation : String
  args : List String
  deriving DecidableEq

/-- Reads predicates, or refuses them. -/
abbrev PredicateParser := String → Except Error Predicate

/-- What separates the operation from its arguments, and the arguments from each other. -/
structure Delimiters where
  main : Char := ':'
  args : String := ","
  deriving DecidableEq

namespace Delimiters

instance : Inhabited Delimiters := ⟨{}⟩

/-- The arguments in a text: none in the empty text, and one if nothing delimits them. -/
def splitArgs (delimiters : Delimiters) (text : List Char) : List String :=
  if text.isEmpty then []
  else (Text.splitOn delimiters.args.toList text).map String.ofList

/-- Only the first main delimiter separates. -/
def split (delimiters : Delimiters) (predicate : String) : Predicate :=
  match Text.cutAt delimiters.main predicate.toList with
  | none => ⟨predicate, []⟩
  | some (operation, rest) => ⟨String.ofList operation, delimiters.splitArgs rest⟩

/-- Every text is a predicate. -/
def parser (delimiters : Delimiters) : PredicateParser := fun text => .ok (delimiters.split text)

end Delimiters

end QueryGate
