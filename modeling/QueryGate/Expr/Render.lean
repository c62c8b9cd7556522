import QueryGate.Expr
import QueryGate.Fragment.Template

/-! Nodes rendered to fragments. A node that prints nothing disappears from the lists and groups
around it, and a group keeps its parentheses only while two or more members print. -/
namespace QueryGate.Expr

/-- The values of an IN condition, which must not be empty. -/
def renderInList (field : String) (values : List Value) (negated : Bool) :
    Except RenderError Fragment :=
  if values.isEmpty then .error (.emptyValueSet field negated)
  else
    let keyword := if negated then " NOT IN (" else " IN ("
    .ok ((Fragment.raw (field ++ keyword) ++ Fragment.paramList values).push (.raw ")"))

/-- The negation of a rendered condition. -/
def negate (inner : Fragment) : Fragment :=
  if inner.isEmpty then .empty else Fragment.raw "NOT " ++ inner.parens

/-- Rendered members joined by a connective. -/
def connect (connective : Connective) (members : List Fragment) : Fragment :=
  let printing := members.filter fun member => !member.isEmpty
  let joined := Fragment.join connective.separator printing
  if printing.length > 1 then joined.parens else joined

mutual

def render : Expr → Except RenderError Fragment
  | compare field op value =>
    .ok (Fragment.raw (field ++ " " ++ op.symbol ++ " ") ++ Fragment.param value)
  | inList field values negated => renderInList field values negated
  | like field pattern => .ok (Fragment.raw (field ++ " LIKE ") ++ Fragment.param pattern)
  | isNull field negated =>
    .ok (Fragment.raw (field ++ if negated then " IS NOT NULL" else " IS NULL"))
  | not inner => (render inner).map negate
  | group connective children =>
    if children.isEmpty then .error (.emptyGroup connective)
    else (renderEach children).map (connect connective)
  | raw text => .ok (Fragment.raw text)
  | template text values => Fragment.template text values
  | columns names => .ok (Fragment.join ", " (names.map Fragment.raw))
  | orderBy terms => .ok (Fragment.join ", " (terms.map fun term => Fragment.raw term.text))

/-- The fragments of nodes in order, or the error of the first node that has one. -/
def renderEach : List Expr → Except RenderError (List Fragment)
  | [] => .ok []
  | node :: rest =>
    match render node with
    | .error error => .error error
    | .ok fragment => (renderEach rest).map (fragment :: ·)

end

/-- Nodes rendered as one list. -/
def renderJoined (separator : String) (nodes : List Expr) : Except RenderError Fragment :=
  (renderEach nodes).map (Fragment.join separator)

end QueryGate.Expr
