import QueryGate.Json.Numeral

/-! JSON texts read into trees. A string may be well formed and still denote no text, because an
escape in it stands for half of a surrogate pair; the tree keeps such a string as `none`. -/
namespace QueryGate

inductive Json where
  | null
  | bool (value : Bool)
  | number (value : Json.Numeral)
  | string (text : Option String)
  | array (items : List Json)
  | object (members : List (Option String × Json))

namespace Json

def isBlank (c : Char) : Bool := c = ' ' || c = '\t' || c = '\n' || c = '\r'

def skipBlanks (text : List Char) : List Char := text.dropWhile isBlank

/-- What one item of a string contributes: a character, or a 16-bit unit from an escape. -/
inductive StringItem where
  | char (c : Char)
  | unit (value : Nat)

/-- The character of an escape by one letter. -/
def shortEscape? : Char → Option Char
  | '"' => some '"'
  | '\\' => some '\\'
  | '/' => some '/'
  | 'b' => some '\x08'
  | 'f' => some '\x0c'
  | 'n' => some '\n'
  | 'r' => some '\r'
  | 't' => some '\t'
  | _ => none

/-- The number that hexadecimal digits denote, if they are such digits. -/
def hexadecimal? (digits : List Char) : Option Nat :=
  if digits.all Text.isHexDigit then some (Text.ofDigitsIn 16 digits) else none

/-- The items of a string up to its closing quote, and what follows. -/
def readItems : List Char → Option (List StringItem × List Char)
  | [] => none
  | '"' :: rest => some ([], rest)
  | '\\' :: 'u' :: a :: b :: c :: d :: rest =>
    match hexadecimal? [a, b, c, d], readItems rest with
    | some unit, some (items, rest) => some (.unit unit :: items, rest)
    | _, _ => none
  | '\\' :: c :: rest =>
    match shortEscape? c, readItems rest with
    | some c, some (items, rest) => some (.char c :: items, rest)
    | _, _ => none
  | c :: rest =>
    if c.toNat < 0x20 then none
    else (readItems rest).map fun (items, rest) => (.char c :: items, rest)

/-- The text that items denote. Units in the surrogate range count only as pairs. -/
def joinItems : List StringItem → Option (List Char)
  | [] => some []
  | .char c :: items => (joinItems items).map (c :: ·)
  | .unit high :: .unit low :: items =>
    if 0xD800 ≤ high ∧ high < 0xDC00 ∧ 0xDC00 ≤ low ∧ low < 0xE000 then
      (joinItems items).map (Char.ofNat (0x10000 + (high - 0xD800) * 0x400 + (low - 0xDC00)) :: ·)
    else if 0xD800 ≤ high ∧ high < 0xE000 then none
    else (joinItems (.unit low :: items)).map (Char.ofNat high :: ·)
  | .unit unit :: items =>
    if 0xD800 ≤ unit ∧ unit < 0xE000 then none
    else (joinItems items).map (Char.ofNat unit :: ·)

/-- A string after its opening quote. -/
def readString (text : List Char) : Option (Option String × List Char) :=
  (readItems text).map fun (items, rest) => ((joinItems items).map String.ofList, rest)

mutual

/-- The value at the head of a text, with what follows it. The fuel bounds the nesting and the
length of what is read. -/
def readValue : Nat → List Char → Option (Json × List Char)
  | 0, _ => none
  | fuel + 1, text =>
    match skipBlanks text with
    | 'n' :: 'u' :: 'l' :: 'l' :: rest => some (.null, rest)
    | 't' :: 'r' :: 'u' :: 'e' :: rest => some (.bool true, rest)
    | 'f' :: 'a' :: 'l' :: 's' :: 'e' :: rest => some (.bool false, rest)
    | '"' :: rest => (readString rest).map fun (text, rest) => (.string text, rest)
    | '[' :: rest =>
      match skipBlanks rest with
      | ']' :: rest => some (.array [], rest)
      | rest => (readArray fuel rest).map fun (items, rest) => (.array items, rest)
    | '\x7b' :: rest =>
      match skipBlanks rest with
      | '\x7d' :: rest => some (.object [], rest)
      | rest => (readObject fuel rest).map fun (members, rest) => (.object members, rest)
    | text => (Numeral.read text).map fun (numeral, rest) => (.number numeral, rest)

/-- One or more items up to the closing bracket. -/
def readArray : Nat → List Char → Option (List Json × List Char)
  | 0, _ => none
  | fuel + 1, text =>
    match readValue fuel text with
    | none => none
    | some (item, rest) =>
      match skipBlanks rest with
      | ']' :: rest => some ([item], rest)
      | ',' :: rest => (readArray fuel rest).map fun (items, rest) => (item :: items, rest)
      | _ => none

/-- One or more members up to the closing brace. -/
def readObject : Nat → List Char → Option (List (Option String × Json) × List Char)
  | 0, _ => none
  | fuel + 1, text =>
    match skipBlanks text with
    | '"' :: rest =>
      match readString rest with
      | none => none
      | some (name, rest) =>
        match skipBlanks rest with
        | ':' :: rest =>
          match readValue fuel rest with
          | none => none
          | some (value, rest) =>
            match skipBlanks rest with
            | '\x7d' :: rest => some ([(name, value)], rest)
            | ',' :: rest =>
              (readObject fuel rest).map fun (members, rest) => ((name, value) :: members, rest)
            | _ => none
        | _ => none
    | _ => none

end

/-- The tree of a text that is one value between blanks. Every step of reading uses up a
character or enters a value, so twice the length is fuel enough. -/
def read (text : String) : Option Json :=
  let chars := text.toList
  match readValue (2 * chars.length + 2) chars with
  | some (value, rest) => if (skipBlanks rest).isEmpty then some value else none
  | none => none

end Json

end QueryGate
