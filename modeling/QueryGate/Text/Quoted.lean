import QueryGate.Text.Numeral
import QueryGate.Unicode.Printable

/-! Text in double quotes, for messages. The quote, the backslash and the common control
characters have short escapes; every other character that cannot stand for itself is written by
its code point. -/
namespace QueryGate.Text

/-- One character inside a quoted text. -/
def escaped (c : Char) : List Char :=
  match c with
  | '"' => ['\\', '"']
  | '\\' => ['\\', '\\']
  | '\x00' => ['\\', '0']
  | '\t' => ['\\', 't']
  | '\n' => ['\\', 'n']
  | '\r' => ['\\', 'r']
  | c =>
    if Unicode.isVisible c then [c]
    else ['\\', 'u', '\x7b'] ++ hexadecimal c.toNat ++ ['\x7d']

/-- A text between double quotes, with escapes. -/
def quoted (text : String) : String :=
  String.ofList ('"' :: text.toList.flatMap escaped ++ ['"'])

/-- Items between brackets, separated by a comma and a space. -/
def bracketed (opening : String) (items : List String) (closing : String) : String :=
  opening ++ ", ".intercalate items ++ closing

/-- A list of quoted texts in square brackets. -/
def quotedList (texts : List String) : String := bracketed "[" (texts.map quoted) "]"

/-- A set of quoted texts in braces. -/
def quotedSet (texts : List String) : String := bracketed "\x7b" (texts.map quoted) "\x7d"

end QueryGate.Text
