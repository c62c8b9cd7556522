import QueryGate.Operator
import QueryGate.Text.Quoted

/-! What can go wrong between a query and its statement. Each error is a cause; `message` gives
its wording, and `isClientError` tells the faults of a request from those of the integration. -/
namespace QueryGate

/-- Faults of an expression or a statement that show when it is rendered. -/
inductive RenderError where
  | missingColumns
  | emptyValueSet (field : String) (negated : Bool)
  | emptyGroup (connective : Connective)
  | markerMismatch (markers values : Nat)
  deriving DecidableEq

def RenderError.message : RenderError → String
  | missingColumns => "select must have at least one column"
  | emptyValueSet field negated =>
    "'" ++ (if negated then "NotIn" else "In")
      ++ "' condition requires at least one value for field " ++ field
  | emptyGroup connective => "'" ++ connective.name ++ "' requires at least one condition"
  | markerMismatch markers values =>
    "raw fragment has " ++ Text.natural markers ++ " placeholder(s) but "
      ++ Text.natural values ++ " argument(s)"

/-- Faults of the page of a query. -/
inductive PageError where
  | invalidLimit (given : String)
  | invalidOffset (given : String)
  | invalidNumber (given : String)
  | limitTooLarge (maximum : UInt64)
  | offsetTooLarge (maximum : UInt64)
  | offsetWithoutLimit
  deriving DecidableEq

def PageError.message : PageError → String
  | invalidLimit given => "page limit must be unsigned integer, got " ++ Text.quoted given
  | invalidOffset given => "page offset must be unsigned integer, got " ++ Text.quoted given
  | invalidNumber given => "page number must be positive integer, got " ++ Text.quoted given
  | limitTooLarge maximum =>
    "page limit cannot be greater than " ++ Text.natural maximum.toNat
  | offsetTooLarge maximum =>
    "page offset cannot be greater than " ++ Text.natural maximum.toNat
  | offsetWithoutLimit => "offset cannot be used without specifying limit"

/-- The clauses whose columns are checked against an allow-list. -/
inductive Clause where
  | select
  | sort
  deriving DecidableEq

def Clause.name : Clause → String
  | select => "selection"
  | sort => "sorting"

/-- Why a name has no column. -/
inductive ResolutionFault where
  | unknownName
  | wrongCount (returned asked : Nat)
  | other (reason : String)
  deriving DecidableEq

def ResolutionFault.reason : ResolutionFault → String
  | unknownName => "translation is not found"
  | wrongCount returned asked =>
    "translator returned " ++ Text.natural returned ++ " names for " ++ Text.natural asked
  | other reason => reason

/-- Why an operation refuses its arguments. -/
inductive ArgumentFault where
  | notExactlyOne (given : Nat)
  | noneGiven
  | other (reason : String)
  deriving DecidableEq

def ArgumentFault.reason : ArgumentFault → String
  | notExactlyOne given => "expected exactly one value, got " ++ Text.natural given
  | noneGiven => "expected at least one value"
  | other reason => reason

/-- Why a query was rejected, or why its statement could not be rendered. -/
inductive Error where
  | undefinedOperation (operation : String)
  | fieldNotAllowed (field : String) (clause : Clause)
  | filteringNotPermitted (field : String) (operation : Option String)
  | unresolved (entry : String) (fault : ResolutionFault)
  | invalidArguments (operation : String) (fault : ArgumentFault)
  | render (error : RenderError)
  | page (error : PageError)
  /-- A failure of an extension, a parser or a condition that only it can describe. -/
  | extension (message : String)
  deriving DecidableEq

def Error.message : Error → String
  | undefinedOperation operation => "filter " ++ Text.quoted operation ++ " is not defined"
  | fieldNotAllowed field clause =>
    "field " ++ Text.quoted field ++ " not allowed for " ++ clause.name ++ " criteria"
  | filteringNotPermitted field (some operation) =>
    "filter " ++ Text.quoted operation ++ " cannot be applied to the field " ++ Text.quoted field
  | filteringNotPermitted field none =>
    "filters cannot be applied to the field " ++ Text.quoted field
  | unresolved entry fault =>
    "failed to translate format of the " ++ Text.quoted entry ++ " entry because " ++ fault.reason
  | invalidArguments operation fault =>
    "filter " ++ Text.quoted operation ++ " got invalid arguments: " ++ fault.reason
  | render error => error.message
  | page error => error.message
  | extension message => message

/-- Whether the request is at fault. A statement without columns, a group without members and a
raw fragment whose markers and values differ can only be mistakes of the integration. -/
def Error.isClientError : Error → Bool
  | render .missingColumns => false
  | render (.emptyGroup _) => false
  | render (.markerMismatch _ _) => false
  | _ => true

end QueryGate
