import QueryGate.Config.Document
import QueryGate.Json.Document

/-! Configurations written in JSON. -/
namespace QueryGate.Config

def ofJson (text : String) : Option Config :=
  (Json.readDocument text).bind (ofDocument Json.spelling)

end QueryGate.Config
