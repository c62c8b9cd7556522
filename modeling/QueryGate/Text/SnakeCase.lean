import QueryGate.Unicode.Letters
import QueryGate.Unicode.Lowering

/-! Names in snake case. A name is cut into pieces at every character that is neither a letter
nor a digit, and each piece into words where its case changes; the words are written in lower
case with underscores between them. -/
namespace QueryGate.Text

/-- The case of the last cased character of a word so far. -/
inductive CaseMode where
  | boundary
  | lower
  | upper
  deriving DecidableEq

def CaseMode.after (mode : CaseMode) (c : Char) : CaseMode :=
  if Unicode.isLowercase c then .lower
  else if Unicode.isUppercase c then .upper
  else mode

/-- The words of a piece. A word ends before a capital that follows a small letter, and before
the last of several capitals that a small letter follows. -/
def caseWords (mode : CaseMode) (word : List Char) : List Char → List (List Char)
  | [] => []
  | [c] => [word ++ [c]]
  | c :: next :: rest =>
    if mode.after c = .lower ∧ Unicode.isUppercase next then
      (word ++ [c]) :: caseWords .boundary [] (next :: rest)
    else if mode = .upper ∧ Unicode.isUppercase c ∧ Unicode.isLowercase next then
      word :: caseWords .boundary [c] (next :: rest)
    else caseWords (mode.after c) (word ++ [c]) (next :: rest)

/-- A word in lower case; a sigma that ends it takes its final form. -/
def lowerWord : List Char → List Char
  | [] => []
  | [c] => if c = 'Σ' then ['ς'] else Unicode.lower c
  | c :: rest => Unicode.lower c ++ lowerWord rest

def snakeCase (name : String) : String :=
  let pieces := name.toList.splitOnP fun c => !Unicode.isAlphanumeric c
  let words := pieces.flatMap (caseWords .boundary [])
  "_".intercalate (words.map fun word => String.ofList (lowerWord word))

end QueryGate.Text
