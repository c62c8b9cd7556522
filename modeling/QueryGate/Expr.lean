import QueryGate.Error
import QueryGate.SortTerm
import QueryGate.Value

/-! The nodes of a statement: conditions, raw SQL, column lists and sort terms. -/
namespace QueryGate

inductive Expr where
  | compare (field : String) (op : Comparison) (value : Value)
  | inList (field : String) (values : List Value) (negated : Bool)
  | like (field : String) (pattern : Value)
  | isNull (field : String) (negated : Bool)
  | not (inner : Expr)
  | group (connective : Connective) (children : List Expr)
  | raw (text : String)
  | template (text : String) (values : List Value)
  | columns (names : List String)
  | orderBy (terms : List SortTerm)

namespace Expr

instance : Inhabited Expr := ⟨raw ""⟩

/-- A group that needs at least one member. -/
def group? (connective : Connective) (children : List Expr) : Except RenderError Expr :=
  if children.isEmpty then .error (.emptyGroup connective) else .ok (group connective children)

/-- All of the conditions. -/
def all? (children : List Expr) : Except RenderError Expr := group? .and children

/-- Any of the conditions. -/
def any? (children : List Expr) : Except RenderError Expr := group? .or children

end Expr

end QueryGate
