import QueryGate.Json
import QueryGate.Text.Numeral
import QueryGate.Text.Split

/-! Strings of TOML: basic ones with escapes and literal ones without, on one line or on several.
A string is first cut out of the text and then checked and unescaped. -/
namespace QueryGate.Toml

def isSpace (c : Char) : Bool := c = ' ' || c = '\t'

/-- Control characters, the tab apart, stand in no string and in no comment. -/
def isPlain (c : Char) : Bool := c = '\t' || (0x20 ≤ c.toNat && c.toNat ≠ 0x7F)

/-- The character whose code point hexadecimal digits give. -/
def scalar? (digits : List Char) : Option Char := do
  let point ← Json.hexadecimal? digits
  if point < 0xD800 ∨ (0xE000 ≤ point ∧ point < 0x110000) then some (Char.ofNat point) else none

/-- The character of an escape by one letter. -/
def shortEscape? : Char → Option Char
  | 'b' => some '\x08'
  | 't' => some '\t'
  | 'n' => some '\n'
  | 'f' => some '\x0c'
  | 'r' => some '\r'
  | 'e' => some '\x1b'
  | '"' => some '"'
  | '\\' => some '\\'
  | _ => none

/-- Whether a line ends here. -/
def atLineEnd : List Char → Bool
  | '\n' :: _ => true
  | '\r' :: '\n' :: _ => true
  | _ => false

/-- Drops blanks and line ends. -/
def dropWhite : List Char → List Char
  | [] => []
  | c :: rest =>
    if isSpace c ∨ atLineEnd (c :: rest) then dropWhite rest else c :: rest

theorem length_dropWhite_le (text : List Char) : (dropWhite text).length ≤ text.length := by
  induction text with
  | nil => exact Nat.le_refl _
  | cons c rest shorter =>
    rw [dropWhite]
    split
    · exact Nat.le_succ_of_le shorter
    · exact Nat.le_refl _

/-- Unescapes the inside of a basic string. On several lines, a backslash before a line end takes
all blanks and line ends after it away. -/
def unescape (multiline : Bool) (text : List Char) : Option (List Char) :=
  match text with
  | [] => some []
  | '\\' :: 'x' :: a :: b :: rest => do return (← scalar? [a, b]) :: (← unescape multiline rest)
  | '\\' :: 'u' :: a :: b :: c :: d :: rest => do
    return (← scalar? [a, b, c, d]) :: (← unescape multiline rest)
  | '\\' :: 'U' :: a :: b :: c :: d :: e :: f :: g :: h :: rest => do
    return (← scalar? [a, b, c, d, e, f, g, h]) :: (← unescape multiline rest)
  | '\\' :: c :: rest =>
    if multiline ∧ atLineEnd ((c :: rest).dropWhile isSpace) then
      unescape multiline (dropWhite (c :: rest))
    else do return (← shortEscape? c) :: (← unescape multiline rest)
  | c :: rest =>
    if c ≠ '\\' ∧ (isPlain c ∨ (multiline ∧ atLineEnd (c :: rest))) then
      (unescape multiline rest).map (c :: ·)
    else none
  termination_by text.length
  decreasing_by
    · simp only [List.length_cons]; omega
    · simp only [List.length_cons]; omega
    · simp only [List.length_cons]; omega
    · exact Nat.lt_succ_of_le (length_dropWhite_le (c :: rest))
    · simp only [List.length_cons]; omega
    · exact Nat.lt_succ_self _

/-- Checks the inside of a literal string. -/
def literal (multiline : Bool) : List Char → Option (List Char)
  | [] => some []
  | c :: rest =>
    if isPlain c ∨ (multiline ∧ atLineEnd (c :: rest)) then (literal multiline rest).map (c :: ·)
    else none

/-- Cuts at the closing quote of a string on one line. Where escapes count, an escaped quote does
not close. -/
def cutLine (quote : Char) (escapes : Bool) : List Char → Option (List Char × List Char)
  | [] => none
  | [c] => if c = quote then some ([], []) else none
  | c :: d :: rest =>
    if c = quote then some ([], d :: rest)
    else if escapes ∧ c = '\\' then
      (cutLine quote escapes rest).map fun (inside, after) => (c :: d :: inside, after)
    else (cutLine quote escapes (d :: rest)).map fun (inside, after) => (c :: inside, after)

/-- Cuts at the three closing quotes of a string on several lines. One or two quotes before them
belong to the string. -/
def cutLines (quote : Char) (escapes : Bool) : List Char → Option (List Char × List Char)
  | c :: d :: rest =>
    if escapes ∧ c = '\\' then
      (cutLines quote escapes rest).map fun (inside, after) => (c :: d :: inside, after)
    else if c = quote ∧ d = quote ∧ rest.head? = some quote then
      let after := rest.drop 1
      let inside := (after.take 2).takeWhile (· = quote)
      some (inside, after.drop inside.length)
    else (cutLines quote escapes (d :: rest)).map fun (inside, after) => (c :: inside, after)
  | _ => none

/-- A line end right after the opening quotes does not belong to the string. -/
def dropFirstLineEnd : List Char → List Char
  | '\n' :: rest => rest
  | '\r' :: '\n' :: rest => rest
  | text => text

/-- A string on one line, from its opening quote on. -/
def readLineString : List Char → Option (String × List Char)
  | '"' :: rest => do
    let (inside, rest) ← cutLine '"' true rest
    return (String.ofList (← unescape false inside), rest)
  | '\x27' :: rest => do
    let (inside, rest) ← cutLine '\x27' false rest
    return (String.ofList (← literal false inside), rest)
  | _ => none

/-- Any string, from its opening quotes on. -/
def readString : List Char → Option (String × List Char)
  | '"' :: '"' :: '"' :: rest => do
    let (inside, rest) ← cutLines '"' true rest
    return (String.ofList (← unescape true (dropFirstLineEnd inside)), rest)
  | '\x27' :: '\x27' :: '\x27' :: rest => do
    let (inside, rest) ← cutLines '\x27' false rest
    return (String.ofList (← literal true (dropFirstLineEnd inside)), rest)
  | text => readLineString text

end QueryGate.Toml
