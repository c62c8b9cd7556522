import QueryGate.Expr

/-! Constructors of conditions, and the built-in ones. A comparison takes exactly one argument,
a set condition at least one, a pattern condition uses the first, and a null check ignores all.
Arguments are bound as texts; `%` and `_` in a pattern keep their meaning. -/
namespace QueryGate

/-- Makes a condition on a column from the arguments of a predicate. -/
abbrev Condition := String → List String → Except Error Expr

/-- Where a pattern may be surrounded by other text. -/
inductive PatternKind where
  | whole
  | start
  | finish
  | anywhere
  deriving DecidableEq

/-- The pattern for a text. -/
def PatternKind.pattern : PatternKind → String → String
  | whole, text => text
  | start, text => text ++ "%"
  | finish, text => "%" ++ text
  | anywhere, text => "%" ++ text ++ "%"

/-- The built-in operations. -/
inductive Builtin where
  | compare (op : Comparison)
  | inList (negated : Bool)
  | matching (kind : PatternKind)
  | isNull (negated : Bool)
  deriving DecidableEq

namespace Builtin

/-- The name under which the operation is registered. -/
def name : Builtin → String
  | compare .eq => "eq"
  | compare .notEq => "neq"
  | compare .lt => "lt"
  | compare .ltEq => "le"
  | compare .gt => "gt"
  | compare .gtEq => "ge"
  | inList false => "in"
  | inList true => "notin"
  | matching .whole => "like"
  | matching .start => "startswith"
  | matching .finish => "endswith"
  | matching .anywhere => "contains"
  | isNull false => "null"
  | isNull true => "notnull"

/-- All built-in operations, in the order of their registration. -/
def all : List Builtin :=
  [compare .eq, compare .notEq, compare .lt, compare .ltEq, compare .gt, compare .gtEq,
    inList false, inList true, matching .whole, matching .start, matching .finish,
    matching .anywhere, isNull false, isNull true]

def condition (builtin : Builtin) : Condition := fun field args =>
  match builtin with
  | compare op =>
    match args with
    | [arg] => .ok (.compare field op (.text arg))
    | _ => .error (.invalidArguments builtin.name (.notExactlyOne args.length))
  | inList negated =>
    if args.isEmpty then .error (.invalidArguments builtin.name .noneGiven)
    else .ok (.inList field (args.map .text) negated)
  | matching kind =>
    match args with
    | [] => .error (.invalidArguments builtin.name .noneGiven)
    | arg :: _ => .ok (.like field (.text (kind.pattern arg)))
  | isNull negated => .ok (.isNull field negated)

end Builtin

end QueryGate
