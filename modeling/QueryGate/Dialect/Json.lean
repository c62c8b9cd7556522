import QueryGate.Dialect
import QueryGate.Json.Document
import QueryGate.Json.Writer

/-! Dialects in JSON, by name. -/
namespace QueryGate.Dialect

def choices : List (String × Dialect) :=
  [sqlite, postgresql, mysql].map fun dialect => (dialect.name, dialect)

def toJson (dialect : Dialect) : String := Json.writeString dialect.name

def ofJson (text : String) : Option Dialect :=
  (Json.readDocument text).bind (Document.choice? Json.spelling choices)

end QueryGate.Dialect
