import QueryGate.Document
import QueryGate.Json

/-! JSON texts as documents. A string with half of a surrogate pair, a number too large for a
real and a value nested too deeply cannot be represented. -/
namespace QueryGate.Json

/-- Records may be lists of at most their fields, and null follows a choice without content. -/
def spelling : Document.Spelling where
  surplusItems := false
  noContent
    | .null => true
    | _ => false

/-- How many arrays and objects may enclose a value. -/
def maxNesting : Nat := 127

def Numeral.document (n : Numeral) : Document :=
  match n.integer?, n.real? with
  | _, none => .unreadable
  | some i, some _ => if 0 ≤ i ∧ i < UInt64.size then .natural (.ofNat i.toNat) else .other
  | none, some _ => .other

mutual

/-- The document of a tree that may still contain `room` levels of arrays and objects. -/
def document (room : Nat) : Json → Document
  | null => .null
  | bool value => .bool value
  | number value => value.document
  | string text => text.elim .unreadable .text
  | array items => if room = 0 then .unreadable else .list (documents (room - 1) items)
  | object members =>
    if room = 0 then .unreadable
    else match entries (room - 1) members with
      | some entries => .record entries
      | none => .unreadable

def documents (room : Nat) : List Json → List Document
  | [] => []
  | item :: items => document room item :: documents room items

/-- The entries of an object, if all of its names denote texts. -/
def entries (room : Nat) : List (Option String × Json) → Option (List (String × Document))
  | [] => some []
  | (none, _) :: _ => none
  | (some name, value) :: members =>
    (entries room members).map ((name, document room value) :: ·)

end

/-- Reads a document from a JSON text. -/
def readDocument (text : String) : Option Document := (read text).map (document maxNesting)

end QueryGate.Json
