import QueryGate.Config
import QueryGate.Document
import QueryGate.Json.Writer

/-! Configurations as documents. Every field may be missing, and fields of other names are
refused; the delimiters and the pagination pass over fields they do not know. -/
namespace QueryGate

open Document

def Naming.choices : List (String × Naming) := [("map", map), ("snake_case", snakeCase)]

def Naming.toJson : Naming → String
  | map => Json.writeString "map"
  | snakeCase => Json.writeString "snake_case"

def Delimiters.toJson (delimiters : Delimiters) : String :=
  Json.writeObject
    [ ("main_delimiter", Json.writeString (String.ofList [delimiters.main])),
      ("args_delimiter", Json.writeString delimiters.args) ]

def Delimiters.ofDocument (spelling : Spelling) (document : Document) : Option Delimiters := do
  match ← document.fields? spelling ["main_delimiter", "args_delimiter"] with
  | [main, args] =>
    return {
      main := ← field? (default : Delimiters).main char? main
      args := ← field? (default : Delimiters).args text? args }
  | _ => none

namespace PageStyle

def writeMaximum (maximum : Option UInt64) : String :=
  Json.writeOption (fun number : UInt64 => Text.natural number.toNat) maximum

def toJson : PageStyle → String
  | limitOffset maxLimit maxOffset =>
    Json.writeObject
      [ ("style", Json.writeString "limit_offset"), ("max_limit", writeMaximum maxLimit),
        ("max_offset", writeMaximum maxOffset) ]
  | limitNumber maxLimit =>
    Json.writeObject
      [("style", Json.writeString "limit_number"), ("max_limit", writeMaximum maxLimit)]

/-- Lists in place of the content have no surplus items, whatever the notation. -/
def contentSpelling : Spelling := ⟨false, fun _ => false⟩

def maximum? : Option Document → Option (Option UInt64) := field? none (optional? natural?)

/-- The content of a style by its name. -/
def ofContent (style : String) (content : Document) : Option PageStyle :=
  match style with
  | "limit_offset" => do
    match ← content.fields? contentSpelling ["max_limit", "max_offset"] with
    | [maxLimit, maxOffset] => return .limitOffset (← maximum? maxLimit) (← maximum? maxOffset)
    | _ => none
  | "limit_number" => do
    match ← content.fields? contentSpelling ["max_limit"] with
    | [maxLimit] => return .limitNumber (← maximum? maxLimit)
    | _ => none
  | _ => none

/-- The style is an entry of the record, at any place, or the first item of a list. The whole
document must be readable, with the fields that are passed over. -/
def ofDocument (document : Document) : Option PageStyle :=
  if !document.readable then none
  else match document with
    | .record entries =>
      match entries.filter fun entry => entry.1 = "style" with
      | [(_, .text style)] => ofContent style document
      | _ => none
    | .list (.text style :: items) => ofContent style (.list items)
    | _ => none

end PageStyle

namespace Config

/-- The names of the fields, in order. -/
def fieldNames : List String :=
  ["resource", "naming", "columns", "qualifier", "default_fields", "allowed_select",
    "always_select", "always_select_all", "allowed_sort", "allowed_conditions", "parser",
    "pagination", "default_limit"]

def toJson (config : Config) : String :=
  let columns := config.columns.entries.map fun (name, column) => (name, Json.writeString column)
  let conditions := config.allowedConditions.entries.map fun (field, operations) =>
    (field, Json.writeStrings operations)
  Json.writeObject
    (fieldNames.zip
      [ Json.writeString config.resource,
        config.naming.toJson,
        Json.writeObject columns,
        Json.writeOption Json.writeString config.qualifier,
        Json.writeStrings config.defaultFields,
        Json.writeOption Json.writeStrings config.allowedSelect,
        Json.writeStrings config.alwaysSelect,
        Json.writeBool config.alwaysSelectAll,
        Json.writeStrings config.allowedSort,
        Json.writeObject conditions,
        config.delimiters.toJson,
        Json.writeOption PageStyle.toJson config.pagination,
        PageStyle.writeMaximum config.defaultLimit ])

def ofDocument (spelling : Spelling) (document : Document) : Option Config := do
  guard (document.onlyFields fieldNames)
  match ← document.fields? spelling fieldNames with
  | [resource, naming, columns, qualifier, defaultFields, allowedSelect, alwaysSelect,
      alwaysSelectAll, allowedSort, allowedConditions, parser, pagination, defaultLimit] =>
    return {
      resource := ← field? "" text? resource
      naming := ← field? .map (choice? spelling Naming.choices) naming
      columns := ← field? ∅ (table? text?) columns
      qualifier := ← field? none (optional? text?) qualifier
      defaultFields := ← field? [] texts? defaultFields
      allowedSelect := ← field? none (optional? texts?) allowedSelect
      alwaysSelect := ← field? [] texts? alwaysSelect
      alwaysSelectAll := ← field? false bool? alwaysSelectAll
      allowedSort := ← field? [] texts? allowedSort
      allowedConditions := ← field? ∅ (table? texts?) allowedConditions
      delimiters := ← field? {} (Delimiters.ofDocument spelling) parser
      pagination := ← field? none (optional? PageStyle.ofDocument) pagination
      defaultLimit := ← field? none (optional? natural?) defaultLimit }
  | _ => none

end Config

end QueryGate
