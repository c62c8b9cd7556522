/-! Argument values, bound to the placeholders of a statement. -/
namespace QueryGate

/-- A value that a statement binds: one of the six kinds a database parameter may have. -/
inductive Value where
  | null
  | bool (value : Bool)
  | integer (value : Int64)
  | real (value : Float)
  | text (value : String)
  | blob (bytes : List UInt8)

namespace Value

instance : Inhabited Value := ⟨null⟩

def isNull : Value → Bool
  | null => true
  | _ => false

def integer? : Value → Option Int64
  | integer value => some value
  | _ => none

def text? : Value → Option String
  | text value => some value
  | _ => none

def blob? : Value → Option (List UInt8)
  | blob bytes => some bytes
  | _ => none

end Value

/-- Types whose elements can be bound. -/
class ToValue (α : Type) where
  toValue : α → Value

export ToValue (toValue)

namespace ToValue

instance : ToValue Value := ⟨id⟩

instance : ToValue Bool := ⟨.bool⟩

instance : ToValue Int64 := ⟨.integer⟩

instance : ToValue Int32 := ⟨fun n => .integer n.toInt64⟩

instance : ToValue Int16 := ⟨fun n => .integer n.toInt64⟩

instance : ToValue Int8 := ⟨fun n => .integer n.toInt64⟩

instance : ToValue UInt32 := ⟨fun n => .integer (.ofNat n.toNat)⟩

instance : ToValue UInt16 := ⟨fun n => .integer (.ofNat n.toNat)⟩

instance : ToValue UInt8 := ⟨fun n => .integer (.ofNat n.toNat)⟩

instance : ToValue Float := ⟨.real⟩

instance : ToValue Float32 := ⟨fun x => .real x.toFloat⟩

instance : ToValue String := ⟨.text⟩

instance : ToValue (List UInt8) := ⟨.blob⟩

instance {α : Type} [ToValue α] : ToValue (Option α) := ⟨fun x => x.elim .null toValue⟩

end ToValue

end QueryGate
