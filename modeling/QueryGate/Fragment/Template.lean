import QueryGate.Error
import QueryGate.Fragment

/-! Raw text with marked places for values. One pass goes over the segments between the markers and
takes a value at each marker while there are any; only behind the last segment the markers and the
values are compared. -/
namespace QueryGate.Fragment

/-- The character that marks the place of a value in a template. -/
def marker : Char := '?'

/-- A raw chunk, unless there is no text. -/
def rawChunk (text : List Char) : List Chunk :=
  if text.isEmpty then [] else [.raw (String.ofList text)]

/-- How far the pass over a template has come: the chunks that it wrote, the markers that it met,
and how many of these took a value. -/
structure Filling where
  chunks : List Chunk
  markers : Nat
  bound : Nat
  /-- The values that no marker has taken yet. -/
  unused : List Value

namespace Filling

def start (values : List Value) : Filling := ⟨[], 0, 0, values⟩

def write (filling : Filling) (segment : List Char) : Filling :=
  { filling with chunks := filling.chunks ++ rawChunk segment }

/-- Counts a marker, which takes the next value if there is one. -/
def mark (filling : Filling) : Filling :=
  let counted := { filling with markers := filling.markers + 1 }
  match filling.unused with
  | [] => counted
  | value :: unused =>
    { counted with
      chunks := filling.chunks ++ [.param value]
      bound := filling.bound + 1
      unused }

/-- Writes segments in order. A marker stands behind each of them but the last. -/
def pass (filling : Filling) : List (List Char) → Filling
  | [] => filling
  | segment :: segments =>
    let written := filling.write segment
    pass (if segments.isEmpty then written else written.mark) segments

/-- The fragment that was written, if every marker took a value and no value is left over. -/
def finish (filling : Filling) : Except RenderError Fragment :=
  let extra := filling.unused.length
  if filling.markers ≠ filling.bound ∨ 0 < extra then
    .error (.markerMismatch filling.markers (filling.bound + extra))
  else .ok ⟨filling.chunks⟩

end Filling

/-- The text with its markers replaced by values. There must be as many values as markers. -/
def template (text : String) (values : List Value) : Except RenderError Fragment :=
  ((Filling.start values).pass (text.toList.splitOn marker)).finish

/-- Puts the values between the segments, in order, without counting anything. -/
def weave : List (List Char) → List Value → List Chunk
  | [], _ => []
  | [segment], _ => rawChunk segment
  | segment :: segments, [] => rawChunk segment ++ weave segments []
  | segment :: segments, value :: values =>
    rawChunk segment ++ .param value :: weave segments values

namespace Filling

theorem mark_of_unused {filling : Filling} {value : Value} {unused : List Value}
    (left : filling.unused = value :: unused) :
    filling.mark = ⟨filling.chunks ++ [.param value], filling.markers + 1, filling.bound + 1,
      unused⟩ := by
  rw [mark, left]

theorem mark_of_used {filling : Filling} (used : filling.unused = []) :
    filling.mark = { filling with markers := filling.markers + 1 } := by
  rw [mark, used]

/-- A pass weaves the segments and the unused values. It meets one marker less than there are
segments, and of these as many take a value as there are values for them. -/
theorem pass_eq (filling : Filling) (segments : List (List Char)) :
    filling.pass segments =
      { chunks := filling.chunks ++ weave segments filling.unused
        markers := filling.markers + (segments.length - 1)
        bound := filling.bound + min (segments.length - 1) filling.unused.length
        unused := filling.unused.drop (segments.length - 1) } := by
  induction segments generalizing filling with
  | nil => simp [pass, weave]
  | cons segment rest later =>
    cases rest with
    | nil => simp [pass, weave, write]
    | cons next others =>
      have met : filling.pass (segment :: next :: others) =
          (filling.write segment).mark.pass (next :: others) := rfl
      obtain ⟨chunks, markers, bound, unused⟩ := filling
      rw [met, later]
      cases unused with
      | nil =>
        rw [mark_of_used rfl]
        simp [write, weave, Nat.add_assoc, Nat.add_comm 1]
      | cons value unused =>
        rw [mark_of_unused rfl]
        simp [write, weave, Nat.add_assoc, Nat.add_comm 1, Nat.add_min_add_right]

end Filling

end QueryGate.Fragment
