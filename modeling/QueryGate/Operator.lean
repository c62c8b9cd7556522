/-! The operators of conditions. -/
namespace QueryGate

/-- Binary comparisons between a field and a value. -/
inductive Comparison where
  | eq
  | notEq
  | lt
  | ltEq
  | gt
  | gtEq
  deriving DecidableEq

/-- The operator as SQL writes it. -/
def Comparison.symbol : Comparison → String
  | eq => "="
  | notEq => "!="
  | lt => "<"
  | ltEq => "<="
  | gt => ">"
  | gtEq => ">="

/-- What joins the members of a group of conditions. -/
inductive Connective where
  | and
  | or
  deriving DecidableEq

def Connective.name : Connective → String
  | and => "And"
  | or => "Or"

/-- What stands between two members. -/
def Connective.separator : Connective → String
  | and => " AND "
  | or => " OR "

end QueryGate
