import QueryGate.Dialect
import QueryGate.Value.Order
import QueryGate.Value.Text

/-! Pieces of a statement: raw text interleaved with values. A fragment keeps its values apart
from its text, so no value is ever written into SQL; a dialect decides how the places of the
values are marked. -/
namespace QueryGate

inductive Chunk where
  | raw (text : String)
  | param (value : Value)

/-- A raw chunk of no text leaves no trace in a statement. -/
def Chunk.isBlank : Chunk → Bool
  | .raw text => text = ""
  | .param _ => false

structure Fragment where
  chunks : List Chunk

/-- The text of a statement, with the values for its placeholders in order. -/
structure Statement where
  text : String
  params : List Value

namespace Fragment

def empty : Fragment := ⟨[]⟩

def raw (text : String) : Fragment := ⟨[.raw text]⟩

def param (value : Value) : Fragment := ⟨[.param value]⟩

def push (fragment : Fragment) (chunk : Chunk) : Fragment := ⟨fragment.chunks ++ [chunk]⟩

/-- The chunks of two fragments in a row. A fragment without chunks leaves the other as it is. -/
def append (first second : Fragment) : Fragment :=
  if first.chunks.isEmpty then second
  else if second.chunks.isEmpty then first
  else ⟨first.chunks ++ second.chunks⟩

instance : Append Fragment := ⟨append⟩

/-- Values separated by commas. -/
def paramList (values : List Value) : Fragment :=
  ⟨(values.map Chunk.param).intersperse (.raw ",")⟩

/-- A fragment that would print nothing. -/
def isEmpty (fragment : Fragment) : Bool := fragment.chunks.all Chunk.isBlank

/-- The chunks of fragments to be joined. Members that print nothing are passed over, and each of
the others stands behind a separator, unless it is the first. -/
def joinFrom (separator : String) (first : Bool) : List Fragment → List Chunk
  | [] => []
  | fragment :: rest =>
    if fragment.isEmpty then joinFrom separator first rest
    else if first then fragment.chunks ++ joinFrom separator false rest
    else .raw separator :: fragment.chunks ++ joinFrom separator false rest

/-- The fragments that print something, with a separator between neighbours. -/
def join (separator : String) (fragments : List Fragment) : Fragment :=
  ⟨joinFrom separator true fragments⟩

/-- The fragment between parentheses. -/
def parens (fragment : Fragment) : Fragment := (raw "(" ++ fragment).push (.raw ")")

/-- The values of a chunk list, in order. -/
def paramsOf : List Chunk → List Value
  | [] => []
  | .raw _ :: rest => paramsOf rest
  | .param value :: rest => value :: paramsOf rest

def params (fragment : Fragment) : List Value := paramsOf fragment.chunks

def paramCount (fragment : Fragment) : Nat := fragment.params.length

/-- Writes chunks behind the text of a buffer. The next placeholder stands at `position`. -/
def writeFrom (dialect : Dialect) (position : Nat) (buffer : String) : List Chunk → String
  | [] => buffer
  | .raw text :: rest => writeFrom dialect position (buffer ++ text) rest
  | .param _ :: rest =>
    writeFrom dialect (position + 1) (buffer ++ dialect.placeholder position) rest

/-- Writes a fragment behind the text of a buffer. -/
def writeTo (fragment : Fragment) (buffer : String) (dialect : Dialect) : String :=
  writeFrom dialect 1 buffer fragment.chunks

def text (fragment : Fragment) (dialect : Dialect) : String := fragment.writeTo "" dialect

/-- Adds one chunk to a statement; the place of a value is the number of values so far. -/
def extend (dialect : Dialect) (written : Statement) : Chunk → Statement
  | .raw text => ⟨written.text ++ text, written.params⟩
  | .param value =>
    let params := written.params ++ [value]
    ⟨written.text ++ dialect.placeholder params.length, params⟩

/-- The statement of a fragment, text and values in one pass. -/
def build (fragment : Fragment) (dialect : Dialect) : Statement :=
  fragment.chunks.foldl (extend dialect) ⟨"", []⟩

/-- Moves the chunks of a list over to the text and the values of a statement. -/
def moveChunks (dialect : Dialect) (text : String) (params : List Value) :
    List Chunk → Statement
  | [] => ⟨text, params⟩
  | .raw more :: rest => moveChunks dialect (text ++ more) params rest
  | .param value :: rest =>
    let params := params ++ [value]
    moveChunks dialect (text ++ dialect.placeholder params.length) params rest

/-- The statement of a fragment that is not needed any more: its values are moved, not copied. -/
def intoStatement (fragment : Fragment) (dialect : Dialect) : Statement :=
  moveChunks dialect "" [] fragment.chunks

/-- The text of a chunk list whose first placeholder stands at `position`. -/
def textFrom (dialect : Dialect) (position : Nat) : List Chunk → String
  | [] => ""
  | .raw text :: rest => text ++ textFrom dialect position rest
  | .param _ :: rest => dialect.placeholder position ++ textFrom dialect (position + 1) rest

@[simp] theorem chunks_append (first second : Fragment) :
    (first ++ second).chunks = first.chunks ++ second.chunks := by
  have unfolded : first ++ second = append first second := rfl
  rw [unfolded, append]
  split
  · rename_i none
    rw [List.isEmpty_iff.mp none, List.nil_append]
  · split
    · rename_i none
      rw [List.isEmpty_iff.mp none, List.append_nil]
    · rfl

theorem paramsOf_append (first second : List Chunk) :
    paramsOf (first ++ second) = paramsOf first ++ paramsOf second := by
  induction first with
  | nil => rfl
  | cons chunk rest later =>
    cases chunk with
    | raw text => exact later
    | param value => exact congrArg (value :: ·) later

/-- The placeholders of a second part are counted on from those of the first. -/
theorem textFrom_append (dialect : Dialect) (position : Nat) (first second : List Chunk) :
    textFrom dialect position (first ++ second) =
      textFrom dialect position first
        ++ textFrom dialect (position + (paramsOf first).length) second := by
  induction first generalizing position with
  | nil => simp [textFrom, paramsOf]
  | cons chunk rest later =>
    cases chunk with
    | raw text => simp [textFrom, paramsOf, later, String.append_assoc]
    | param value =>
      simp [textFrom, paramsOf, later, String.append_assoc, Nat.add_assoc, Nat.add_comm 1]

/-- What the buffer holds stays in front, whatever is written behind it. -/
theorem writeFrom_eq (dialect : Dialect) (position : Nat) (buffer : String)
    (chunks : List Chunk) :
    writeFrom dialect position buffer chunks = buffer ++ textFrom dialect position chunks := by
  induction chunks generalizing position buffer with
  | nil => simp [writeFrom, textFrom]
  | cons chunk rest later =>
    cases chunk with
    | raw text => rw [writeFrom, later, textFrom, String.append_assoc]
    | param value => rw [writeFrom, later, textFrom, String.append_assoc]

theorem text_eq_textFrom (fragment : Fragment) (dialect : Dialect) :
    fragment.text dialect = textFrom dialect 1 fragment.chunks := by
  rw [text, writeTo, writeFrom_eq, String.empty_append]

private theorem foldl_extend (dialect : Dialect) (written : Statement) (chunks : List Chunk) :
    chunks.foldl (extend dialect) written =
      ⟨written.text ++ textFrom dialect (written.params.length + 1) chunks,
        written.params ++ paramsOf chunks⟩ := by
  induction chunks generalizing written with
  | nil => simp [textFrom, paramsOf]
  | cons chunk rest later =>
    rw [List.foldl_cons, later]
    cases chunk with
    | raw text => simp [extend, textFrom, paramsOf, String.append_assoc]
    | param value => simp [extend, textFrom, paramsOf, String.append_assoc]

/-- One pass gives the text and the values that are defined apart. -/
theorem build_eq_text_params (fragment : Fragment) (dialect : Dialect) :
    fragment.build dialect = ⟨fragment.text dialect, fragment.params⟩ := by
  simp [build, foldl_extend, text_eq_textFrom, params]

private theorem moveChunks_eq (dialect : Dialect) (text : String) (params : List Value)
    (chunks : List Chunk) :
    moveChunks dialect text params chunks =
      ⟨text ++ textFrom dialect (params.length + 1) chunks, params ++ paramsOf chunks⟩ := by
  induction chunks generalizing text params with
  | nil => simp [moveChunks, textFrom, paramsOf]
  | cons chunk rest later =>
    cases chunk with
    | raw more => simp [moveChunks, later, textFrom, paramsOf, String.append_assoc]
    | param value => simp [moveChunks, later, textFrom, paramsOf, String.append_assoc]

theorem intoStatement_eq_text_params (fragment : Fragment) (dialect : Dialect) :
    fragment.intoStatement dialect = ⟨fragment.text dialect, fragment.params⟩ := by
  simp [intoStatement, moveChunks_eq, text_eq_textFrom, params]

/-- The fragment as a log shows it: the text with plain placeholders, and the values. -/
def described (fragment : Fragment) : String :=
  "sql: \"" ++ fragment.text default ++ "\", params: "
    ++ Text.bracketed "[" (fragment.params.map Value.labelled) "]"

end Fragment

end QueryGate
