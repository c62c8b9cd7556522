import QueryGate.Decimal.Layout
import QueryGate.Text.Quoted
import QueryGate.Text.Utf8
import QueryGate.Value

/-! Values as text: plain, as a user reads them, and labelled with their kind, as a log shows
them. -/
namespace QueryGate.Value

/-- Plain numbers are written out in full and show no fraction unless they have one. -/
def plainReal : Decimal.Layout := ⟨.up, none, none, "", "e", "NaN", "inf", "-inf"⟩

/-- Labelled numbers always look like reals, and from `10 ^ 16` on and below `10 ^ (-4)` they
have an exponent. -/
def labelledReal : Decimal.Layout := ⟨.up, some (-4), some 15, ".0", "e", "NaN", "inf", "-inf"⟩

def plain : Value → String
  | null => "NULL"
  | bool b => if b then "true" else "false"
  | integer n => Text.integer n.toInt
  | real x => plainReal.write x
  | text t => t
  | blob bytes => String.ofList (Text.utf8Lossy bytes)

def labelled : Value → String
  | null => "Null"
  | bool b => if b then "Bool(true)" else "Bool(false)"
  | integer n => "Integer(" ++ Text.integer n.toInt ++ ")"
  | real x => "Real(" ++ labelledReal.write x ++ ")"
  | text t => "Text(" ++ Text.quoted t ++ ")"
  | blob bytes =>
    "Blob(" ++ Text.bracketed "[" (bytes.map fun byte => Text.natural byte.toNat) "]" ++ ")"

end QueryGate.Value
