import QueryGate.Table

/-! What a document says, whatever its notation, and how settings are read from it. A record may
also be written as a list of its fields in order, and a choice without content as a record of one
entry. -/
namespace QueryGate

inductive Document where
  | null
  | bool (value : Bool)
  /-- An integer that is not negative and has 64 bits. -/
  | natural (value : UInt64)
  | text (value : String)
  | list (items : List Document)
  | record (entries : List (String × Document))
  /-- A well-formed value of a kind that no setting takes. -/
  | other
  /-- A well-formed value that cannot be represented, so that it may only be passed over. -/
  | unreadable
  /-- A value in form alone, which may not even be passed over. -/
  | malformed

namespace Document

/-- How a notation spells records and choices. -/
structure Spelling where
  /-- Whether a list in place of a record may have items beyond its fields. -/
  surplusItems : Bool
  /-- Whether a value may follow the name of a choice without content. -/
  noContent : Document → Bool

def text? : Document → Option String
  | text value => some value
  | _ => none

def bool? : Document → Option Bool
  | bool value => some value
  | _ => none

def natural? : Document → Option UInt64
  | natural value => some value
  | _ => none

/-- A text of exactly one character. -/
def char? (document : Document) : Option Char :=
  match document.text?.map String.toList with
  | some [c] => some c
  | _ => none

/-- Null stands for an absent value. -/
def optional? {α : Type} (read : Document → Option α) : Document → Option (Option α)
  | null => some none
  | document => (read document).map some

def list? {α : Type} (read : Document → Option α) : Document → Option (List α)
  | list items => items.mapM read
  | _ => none

def texts? : Document → Option (List String) := list? text?

/-- A record read as a table. A repeated name keeps its first place and its last value, but all
of its values must be readable. -/
def table? {α : Type} (read : Document → Option α) : Document → Option (Table α)
  | record entries =>
    let readEntry := fun (entry : String × Document) => (read entry.2).map (entry.1, ·)
    (entries.mapM readEntry).map Table.ofList
  | _ => none

/-- A choice by its name. -/
def choice? {α : Type} (spelling : Spelling) (choices : List (String × α)) : Document → Option α
  | text name => Table.lookup name choices
  | record [(name, content)] =>
    if spelling.noContent content then Table.lookup name choices else none
  | _ => none

mutual

/-- Whether a document has no part of some kinds. -/
def avoids (kinds : Document → Bool) : Document → Bool
  | list items => itemsAvoid kinds items
  | record entries => entriesAvoid kinds entries
  | document => !kinds document

def itemsAvoid (kinds : Document → Bool) : List Document → Bool
  | [] => true
  | item :: items => avoids kinds item && itemsAvoid kinds items

def entriesAvoid (kinds : Document → Bool) : List (String × Document) → Bool
  | [] => true
  | (_, value) :: entries => avoids kinds value && entriesAvoid kinds entries

end

/-- Whether all of a document can be represented. -/
def readable : Document → Bool := avoids fun
  | unreadable => true
  | malformed => true
  | _ => false

/-- Whether a document may be passed over. -/
def passable : Document → Bool := avoids fun
  | malformed => true
  | _ => false

/-- The values of named fields. No field may be given twice, and a list gives the first fields.
Other entries of a record are passed over; surplus items of a list are not even looked at. -/
def fields? (spelling : Spelling) (names : List String) :
    Document → Option (List (Option Document))
  | record entries =>
    let (known, others) := entries.partition fun entry => names.contains entry.1
    if (known.map Prod.fst).Nodup ∧ others.all fun entry => entry.2.passable then
      some (names.map fun name => Table.lookup name entries)
    else none
  | list items =>
    if items.length ≤ names.length ∨ spelling.surplusItems then
      some (names.zipIdx.map fun entry => items[entry.2]?)
    else none
  | _ => none

/-- Whether every entry of a record is one of the named fields. -/
def onlyFields (names : List String) : Document → Bool
  | record entries => entries.all fun entry => names.contains entry.1
  | _ => true

/-- A field that may be missing. -/
def field? {α : Type} (absent : α) (read : Document → Option α) : Option Document → Option α
  | none => some absent
  | some document => read document

end Document

end QueryGate
