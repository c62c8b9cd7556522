import QueryGate.Config.Document
import QueryGate.Toml

/-! Configurations written in TOML. -/
namespace QueryGate.Config

def ofToml (text : String) : Option Config :=
  (Toml.readDocument text).bind (ofDocument Toml.spelling)

end QueryGate.Config
