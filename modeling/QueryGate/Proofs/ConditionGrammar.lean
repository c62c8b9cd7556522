import QueryGate.Expr
import Mathlib.Data.List.SplitBy

/-! Conditions as a database reads them: an OR-list of AND-lists of primaries behind NOTs, where a
primary is a condition between parentheses or one atom. A text is read together with its values,
which its question marks take in order. -/
namespace QueryGate.ConditionGrammar

/-! Truth values -/

/-- The truth values of SQL. A comparison with NULL is neither true nor false. -/
inductive Truth where
  | no
  | unknown
  | yes
  deriving DecidableEq

namespace Truth

def not : Truth → Truth
  | no => yes
  | unknown => unknown
  | yes => no

/-- AND is the lesser of two truth values, and OR the greater. -/
def join : Connective → Truth → Truth → Truth
  | .and, yes, other => other
  | .and, no, _ => no
  | .and, unknown, no => no
  | .and, unknown, _ => unknown
  | .or, no, other => other
  | .or, yes, _ => yes
  | .or, unknown, yes => yes
  | .or, unknown, _ => unknown

end Truth

/-- The members of a list joined from the right, if there are any. -/
def joinAll? {α : Type} (join : α → α → α) : List α → Option α
  | [] => none
  | [last] => some last
  | first :: rest => (joinAll? join rest).map (join first)

/-! Formulas -/

/-- A condition without connectives. -/
inductive Atom where
  | compare (field : String) (op : Comparison) (value : Value)
  | inList (field : String) (values : List Value) (negated : Bool)
  | like (field : String) (pattern : Value)
  | isNull (field : String) (negated : Bool)

inductive Formula where
  | atom (atom : Atom)
  | not (inner : Formula)
  | join (connective : Connective) (left right : Formula)

/-- The truth value of a formula whose atoms have the given ones. -/
def Formula.truth (assign : Atom → Truth) : Formula → Truth
  | .atom leaf => assign leaf
  | .not inner => (inner.truth assign).not
  | .join connective left right => .join connective (left.truth assign) (right.truth assign)

/-! Tokens -/

inductive Keyword where
  | and
  | or
  | not
  | among
  | like
  | is
  | null

def Keyword.text : Keyword → String
  | and => "AND"
  | or => "OR"
  | not => "NOT"
  | among => "IN"
  | like => "LIKE"
  | is => "IS"
  | null => "NULL"

inductive Token where
  | keyword (keyword : Keyword)
  | name (text : String)
  | comparison (op : Comparison)
  | value (value : Value)
  | comma
  | opening
  | closing
  | stray

/-- The characters of names and keywords. -/
def isWord (c : Char) : Bool := c.isAlphanum || c = '_' || c = '.'

/-- The characters of field names. -/
def isField (c : Char) : Bool := c.isLower || c.isDigit || c = '_' || c = '.'

/-- A field name: some lower-case letters, digits, underscores and dots. -/
def FieldName (field : String) : Prop := field ≠ "" ∧ ∀ c ∈ field.toList, isField c = true

/-- The characters of comparisons. -/
def isSign (c : Char) : Bool := c = '=' || c = '!' || c = '<' || c = '>'

/-- Whether two neighbouring characters belong to one lexeme. -/
def clings (c d : Char) : Bool := isWord c && isWord d || isSign c && isSign d

/-- A text cut where neighbours do not cling together. -/
def lexemes (text : List Char) : List (List Char) := text.splitBy clings

/-- The lexemes that are always the same token. -/
def fixedTokens : List (List Char × Token) :=
  [Keyword.and, .or, .not, .among, .like, .is, .null].map
      (fun keyword => (keyword.text.toList, .keyword keyword))
    ++ [Comparison.eq, .notEq, .lt, .ltEq, .gt, .gtEq].map
      (fun op => (op.symbol.toList, .comparison op))
    ++ [([','], .comma), (['('], .opening), ([')'], .closing)]

/-- The token of a lexeme that is neither a space nor the place of a value. -/
def tokenOf (lexeme : List Char) : Token :=
  (fixedTokens.lookup lexeme).getD
    (if lexeme.all isWord then .name (String.ofList lexeme) else .stray)

/-- The tokens of lexemes. Every question mark takes the next value, and none may be left over. -/
def tokens : List (List Char) → List Value → List Token
  | [], values => if values.isEmpty then [] else [.stray]
  | lexeme :: rest, values =>
    if lexeme = [' '] then tokens rest values
    else if lexeme = ['?'] then
      match values with
      | value :: others => .value value :: tokens rest others
      | [] => .stray :: tokens rest []
    else tokenOf lexeme :: tokens rest values

/-! Parsing -/

/-- A token, or what has been read between parentheses. -/
inductive Piece where
  | token (token : Token)
  | values (values : List Value)
  | condition (formula : Formula)
  | stray

/-- Values with commas between them. -/
def values? : List Piece → Option (List Value)
  | [.token (.value value)] => some [value]
  | .token (.value value) :: .token .comma :: rest => (values? rest).map (value :: ·)
  | _ => none

def primary? : List Piece → Option Formula
  | [.condition formula] => some formula
  | [.token (.name field), .token (.comparison op), .token (.value value)] =>
    some (.atom (.compare field op value))
  | [.token (.name field), .token (.keyword .among), .values values] =>
    some (.atom (.inList field values false))
  | [.token (.name field), .token (.keyword .not), .token (.keyword .among), .values values] =>
    some (.atom (.inList field values true))
  | [.token (.name field), .token (.keyword .like), .token (.value pattern)] =>
    some (.atom (.like field pattern))
  | [.token (.name field), .token (.keyword .is), .token (.keyword .null)] =>
    some (.atom (.isNull field false))
  | [.token (.name field), .token (.keyword .is), .token (.keyword .not),
      .token (.keyword .null)] => some (.atom (.isNull field true))
  | _ => none

/-- A primary behind any number of NOTs. -/
def negation? : List Piece → Option Formula
  | .token (.keyword .not) :: rest => (negation? rest).map .not
  | pieces => primary? pieces

/-- Whether the piece is the keyword of the connective. -/
def separates : Connective → Piece → Bool
  | .and, .token (.keyword .and) => true
  | .or, .token (.keyword .or) => true
  | _, _ => false

/-- Members with the keyword of a connective between them. -/
def separated? (connective : Connective) (member? : List Piece → Option Formula)
    (pieces : List Piece) : Option Formula :=
  ((pieces.splitOnP (separates connective)).mapM member?).bind (joinAll? (.join connective))

/-- AND binds tighter than OR. -/
def condition? (pieces : List Piece) : Option Formula :=
  separated? .or (separated? .and negation?) pieces

/-- What the pieces between two parentheses stand for. -/
def enclosed (pieces : List Piece) : Piece :=
  match condition? pieces, values? pieces with
  | some formula, _ => .condition formula
  | none, some values => .values values
  | none, none => .stray

/-- The pieces at the current depth, and those at every depth around it. -/
structure Levels where
  current : List Piece
  outer : List (List Piece)

/-- Tokens are nested from the right, so a closing parenthesis comes before its opening one. -/
def nest (token : Token) (levels : Levels) : Levels :=
  match token, levels with
  | .closing, ⟨current, outer⟩ => ⟨[], current :: outer⟩
  | .opening, ⟨current, next :: outer⟩ => ⟨enclosed current :: next, outer⟩
  | .opening, ⟨current, []⟩ => ⟨.stray :: current, []⟩
  | token, ⟨current, outer⟩ => ⟨.token token :: current, outer⟩

/-- The levels of a text with its values. -/
def scan (text : List Char) (values : List Value) : Levels :=
  (tokens (lexemes text) values).foldr nest ⟨[], []⟩

/-- The formula that a text with values is read as. Every parenthesis must be matched. -/
def parse (text : String) (values : List Value) : Option Formula :=
  match scan text.toList values with
  | ⟨pieces, []⟩ => condition? pieces
  | ⟨_, _ :: _⟩ => none

end QueryGate.ConditionGrammar
