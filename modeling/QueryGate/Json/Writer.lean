import QueryGate.Text.Numeral

/-! JSON texts written without blanks. Strings escape the quote, the backslash and the control
characters below U+0020, and nothing else. -/
namespace QueryGate.Json

/-- One character inside a string. -/
def escaped (c : Char) : List Char :=
  match c with
  | '"' => ['\\', '"']
  | '\\' => ['\\', '\\']
  | '\x08' => ['\\', 'b']
  | '\x0c' => ['\\', 'f']
  | '\n' => ['\\', 'n']
  | '\r' => ['\\', 'r']
  | '\t' => ['\\', 't']
  | c =>
    if c.toNat < 0x20 then
      ['\\', 'u', '0', '0', Text.digitChar (c.toNat / 16), Text.digitChar (c.toNat % 16)]
    else [c]

def writeString (text : String) : String :=
  String.ofList ('"' :: text.toList.flatMap escaped ++ ['"'])

def writeBool (value : Bool) : String := if value then "true" else "false"

/-- An array of written items. -/
def writeArray (items : List String) : String := "[" ++ ",".intercalate items ++ "]"

/-- An object of names with written values. -/
def writeObject (members : List (String × String)) : String :=
  let written := members.map fun (name, value) => writeString name ++ ":" ++ value
  "\x7b" ++ ",".intercalate written ++ "\x7d"

/-- A written value, or null. -/
def writeOption {α : Type} (write : α → String) (value : Option α) : String :=
  value.elim "null" write

def writeStrings (texts : List String) : String := writeArray (texts.map writeString)

end QueryGate.Json
