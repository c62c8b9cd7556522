import QueryGate.Toml.Quoted
import QueryGate.Toml.Scalar
import QueryGate.Toml.Tables

/-! TOML texts read into documents. -/
namespace QueryGate.Toml

/-- Records may be lists with surplus items, and an empty list or table follows a choice without
content. -/
def spelling : Document.Spelling where
  surplusItems := true
  noContent
    | .list [] => true
    | .record [] => true
    | _ => false

def skipSpaces (text : List Char) : List Char := text.dropWhile isSpace

/-- Skips blanks, line ends and comments. -/
def skipLines : (inComment : Bool) → List Char → Option (List Char)
  | _, [] => some []
  | inComment, c :: rest =>
    if c = '\n' then skipLines false rest
    else if c = '\r' then if rest.head? = some '\n' then skipLines inComment rest else none
    else if inComment then if isPlain c then skipLines true rest else none
    else if isSpace c then skipLines false rest
    else if c = '#' then skipLines true rest
    else some (c :: rest)

def skipAll (text : List Char) : Option (List Char) := skipLines false text

/-- What follows the end of a line, where only blanks and a comment may still stand. -/
def endLine (text : List Char) : Option (List Char) :=
  match skipSpaces text with
  | [] => some []
  | c :: rest =>
    if c = '#' ∨ atLineEnd (c :: rest) then some (c :: rest) else none

def isBareKeyChar (c : Char) : Bool := c.isAlphanum || c = '_' || c = '-'

/-- A key: bare, or a string on one line. -/
def readKey (text : List Char) : Option (String × List Char) :=
  let bare := text.takeWhile isBareKeyChar
  if bare.isEmpty then readLineString text
  else some (String.ofList bare, text.dropWhile isBareKeyChar)

/-- How many arrays and inline tables may enclose each other, and how many keys one path may have. -/
def maxNesting : Nat := 80

/-- Up to a number of keys with dots between them. -/
def readKeys : (room : Nat) → List Char → Option (List String × List Char)
  | 0, _ => none
  | room + 1, text => do
    let (key, rest) ← readKey (skipSpaces text)
    match skipSpaces rest with
    | '.' :: rest => do
      let (keys, rest) ← readKeys room rest
      return (key :: keys, rest)
    | rest => return ([key], rest)

def readPath : List Char → Option (List String × List Char) := readKeys maxNesting

mutual

/-- The value at the head of a text, with what follows it. It may have `room` more levels of arrays
and inline tables. -/
def readValue (room : Nat) : Nat → List Char → Option (Document × List Char)
  | 0, _ => none
  | fuel + 1, text =>
    match text with
    | '[' :: rest => do
      guard (0 < room)
      match ← skipAll rest with
      | ']' :: rest => return (.list [], rest)
      | rest =>
        let (items, rest) ← readArray (room - 1) fuel rest
        return (.list items, rest)
    | '\x7b' :: rest => do
      guard (0 < room)
      match ← skipAll rest with
      | '\x7d' :: rest => return (.record [], rest)
      | rest =>
        let (entries, rest) ← readInline (room - 1) fuel [] rest
        return (sorted (entryDocuments entries), rest)
    | '"' :: _ => (readString text).map fun (string, rest) => (.text string, rest)
    | '\x27' :: _ => (readString text).map fun (string, rest) => (.text string, rest)
    | text => readScalar text

/-- One or more items up to the closing bracket, before which a comma may stand. -/
def readArray (room : Nat) : Nat → List Char → Option (List Document × List Char)
  | 0, _ => none
  | fuel + 1, text => do
    let (item, rest) ← readValue room fuel text
    match ← skipAll rest with
    | ']' :: rest => return ([item], rest)
    | ',' :: rest =>
      match ← skipAll rest with
      | ']' :: rest => return ([item], rest)
      | rest =>
        let (items, rest) ← readArray room fuel rest
        return (item :: items, rest)
    | _ => none

/-- One or more entries of an inline table, up to the closing brace. Lines may end around a key, but
not between its parts. -/
def readInline (room : Nat) : Nat → Entries → List Char → Option (Entries × List Char)
  | 0, _, _ => none
  | fuel + 1, entries, text => do
    let (path, rest) ← readPath text
    match ← skipAll rest with
    | '=' :: rest =>
      let (value, rest) ← readValue room fuel (← skipAll rest)
      let entries ← assignAt path value entries
      match ← skipAll rest with
      | '\x7d' :: rest => return (entries, rest)
      | ',' :: rest =>
        match ← skipAll rest with
        | '\x7d' :: rest => return (entries, rest)
        | rest => readInline room fuel entries rest
      | _ => none
    | _ => none

end

/-- Enough fuel for a text: every step of reading uses up a character or enters a value. -/
def fuelFor (text : List Char) : Nat := 2 * text.length + 2

/-- The definition at the head of a text: a header in brackets, one in double brackets, or a key
with its value. -/
def readDefinition (text : List Char) : Option (Definition × List Char) :=
  match text with
  | '[' :: '[' :: rest => do
    match ← readPath rest with
    | (path, ']' :: ']' :: rest) => return (.arrayHeader path, rest)
    | _ => none
  | '[' :: rest => do
    match ← readPath rest with
    | (path, ']' :: rest) => return (.header path, rest)
    | _ => none
  | text => do
    match ← readPath text with
    | (path, '=' :: rest) =>
      let (value, rest) ← readValue maxNesting (fuelFor rest) (skipSpaces rest)
      return (.assignment path value, rest)
    | _ => none

/-- The definitions of a text, one on each line that has one. -/
def readDefinitions : Nat → List Char → Option (List Definition)
  | 0, _ => none
  | fuel + 1, text => do
    match ← skipAll text with
    | [] => return []
    | text =>
      let (definition, rest) ← readDefinition text
      return definition :: (← readDefinitions fuel (← endLine rest))

/-- Reads a document from a TOML text, which may begin with a byte order mark. -/
def readDocument (text : String) : Option Document := do
  let chars := match text.toList with
    | '\ufeff' :: rest => rest
    | chars => chars
  let definitions ← readDefinitions (fuelFor chars) chars
  return sorted (entryDocuments (← define [] [] definitions))

end QueryGate.Toml
