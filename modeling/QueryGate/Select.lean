import QueryGate.Expr

/-! A SELECT statement under construction. Every clause collects what it is given, in order; the
source, the limit and the offset keep what they were given last. -/
namespace QueryGate

structure Select where
  columns : List Expr := []
  source : Option String := none
  joins : List Expr := []
  conditions : List Expr := []
  groups : List String := []
  having : List Expr := []
  ordering : List Expr := []
  limit : Option UInt64 := none
  offset : Option UInt64 := none
  distinct : Bool := false

namespace Select

def empty : Select := {}

instance : Inhabited Select := ⟨empty⟩

/-- Adds columns by name; no names add nothing. -/
def selectNames (select : Select) (names : List String) : Select :=
  if names.isEmpty then select
  else { select with columns := select.columns ++ [.columns names] }

def addColumn (select : Select) (column : Expr) : Select :=
  { select with columns := select.columns ++ [column] }

def makeDistinct (select : Select) : Select := { select with distinct := true }

def readFrom (select : Select) (source : String) : Select := { select with source := some source }

def addJoin (select : Select) (join : Expr) : Select :=
  { select with joins := select.joins ++ [join] }

def addConditions (select : Select) (conditions : List Expr) : Select :=
  { select with conditions := select.conditions ++ conditions }

def addCondition (select : Select) (condition : Expr) : Select :=
  select.addConditions [condition]

def groupBy (select : Select) (names : List String) : Select :=
  { select with groups := select.groups ++ names }

def addHaving (select : Select) (condition : Expr) : Select :=
  { select with having := select.having ++ [condition] }

def addOrdering (select : Select) (node : Expr) : Select :=
  { select with ordering := select.ordering ++ [node] }

/-- Adds sort terms; no terms add nothing. -/
def orderBy (select : Select) (terms : List SortTerm) : Select :=
  if terms.isEmpty then select else select.addOrdering (.orderBy terms)

def clearOrdering (select : Select) : Select := { select with ordering := [] }

def setLimit (select : Select) (limit : UInt64) : Select := { select with limit := some limit }

def setOffset (select : Select) (offset : UInt64) : Select :=
  { select with offset := some offset }

def isOrdered (select : Select) : Bool := !select.ordering.isEmpty

/-- One change to a statement. -/
inductive Step where
  | select (names : List String)
  | column (column : Expr)
  | distinct
  | source (text : String)
  | join (join : Expr)
  | condition (condition : Expr)
  | conditions (conditions : List Expr)
  | groupBy (names : List String)
  | having (condition : Expr)
  | ordering (node : Expr)
  | orderBy (terms : List SortTerm)
  | clearOrdering
  | limit (limit : UInt64)
  | offset (offset : UInt64)

def apply (select : Select) : Step → Select
  | .select names => select.selectNames names
  | .column column => select.addColumn column
  | .distinct => select.makeDistinct
  | .source text => select.readFrom text
  | .join join => select.addJoin join
  | .condition condition => select.addCondition condition
  | .conditions conditions => select.addConditions conditions
  | .groupBy names => select.groupBy names
  | .having condition => select.addHaving condition
  | .ordering node => select.addOrdering node
  | .orderBy terms => select.orderBy terms
  | .clearOrdering => select.clearOrdering
  | .limit limit => select.setLimit limit
  | .offset offset => select.setOffset offset

/-- Makes changes one after the other. -/
def applyAll (select : Select) (steps : List Step) : Select := steps.foldl apply select

end Select

end QueryGate
