import QueryGate.Decimal.Layout
import QueryGate.Json
import QueryGate.Json.Writer
import QueryGate.Value

/-! Values in JSON. The kind of a value is told by its form alone: null, truth values, integers,
other numbers, strings, and arrays of bytes. -/
namespace QueryGate.Value

/-- Reals keep a fraction while they are written with a point, from `10 ^ (-5)` to below
`10 ^ 16`. JSON has no texts for NaN and infinity. -/
def jsonReal : Decimal.Layout := ⟨.even, some (-5), some 15, ".0", "e+", "null", "null", "null"⟩

def toJson : Value → String
  | null => "null"
  | bool b => Json.writeBool b
  | integer n => Text.integer n.toInt
  | real x => jsonReal.write x
  | text t => Json.writeString t
  | blob bytes => Json.writeArray (bytes.map fun byte => Text.natural byte.toNat)

/-- A number is an integer if it is written as one and has 64 bits, and else a real. -/
def ofNumeral (n : Json.Numeral) : Option Value :=
  match n.integer? with
  | some i =>
    if Int64.minValue.toInt ≤ i ∧ i ≤ Int64.maxValue.toInt then some (.integer (.ofInt i))
    else n.real?.map .real
  | none => n.real?.map .real

/-- One byte of a blob. -/
def byte? : Json → Option UInt8
  | .number n =>
    match n.integer? with
    | some i => if 0 ≤ i ∧ i < 256 then some (.ofNat i.toNat) else none
    | none => none
  | _ => none

def ofTree : Json → Option Value
  | .null => some .null
  | .bool b => some (.bool b)
  | .number n => ofNumeral n
  | .string t => t.map .text
  | .array items => (items.mapM byte?).map .blob
  | .object _ => none

/-- Reads a value from a JSON text. -/
def ofJson (text : String) : Option Value := (Json.read text).bind ofTree

end QueryGate.Value
