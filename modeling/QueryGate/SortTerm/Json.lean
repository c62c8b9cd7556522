import QueryGate.Json.Document
import QueryGate.Json.Writer
import QueryGate.SortTerm

/-! Sort directions in JSON, by name. Reading also knows the names in capitals and with a
capital. -/
namespace QueryGate.SortDirection

def choices : List (String × SortDirection) :=
  [("asc", asc), ("ASC", asc), ("Asc", asc), ("desc", desc), ("DESC", desc), ("Desc", desc)]

def toJson (direction : SortDirection) : String := Json.writeString direction.name

def ofDocument (document : Document) : Option SortDirection :=
  document.choice? Json.spelling choices

def ofJson (text : String) : Option SortDirection := (Json.readDocument text).bind ofDocument

end QueryGate.SortDirection
