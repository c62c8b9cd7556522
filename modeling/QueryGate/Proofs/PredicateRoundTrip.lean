import Mathlib.Data.List.Infix
import QueryGate.Predicate

/-! Predicates are read and written without loss. Cutting at the first main delimiter and at every
argument delimiter can be undone by joining; and joining can be undone by cutting, unless the
argument delimiter overlaps itself or an argument contains it. -/
namespace QueryGate.Text

/-! Cutting once -/

theorem cutAt_eq_none_iff {mark : Char} {text : List Char} :
    cutAt mark text = none ↔ mark ∉ text := by
  induction text with
  | nil => simp [cutAt]
  | cons c rest later =>
    rw [cutAt, List.mem_cons, not_or]
    by_cases found : c = mark
    · simp [found]
    · simp [found, later, Ne.symm found]

/-- The two sides of a cut make up the text, and the first of them is free of the mark. -/
theorem cutAt_eq_some {mark : Char} {text before after : List Char}
    (cut : cutAt mark text = some (before, after)) :
    before ++ mark :: after = text ∧ mark ∉ before := by
  induction text generalizing before with
  | nil => cases cut
  | cons c rest later =>
    rw [cutAt] at cut
    split at cut
    · rename_i found
      subst found
      cases cut
      exact ⟨rfl, List.not_mem_nil⟩
    · rename_i other
      obtain ⟨⟨head, tail⟩, inner, same⟩ := Option.map_eq_some_iff.mp cut
      cases same
      obtain ⟨whole, free⟩ := later inner
      exact ⟨congrArg (c :: ·) whole, List.not_mem_cons_of_ne_of_not_mem (Ne.symm other) free⟩

theorem cutAt_append {mark : Char} {before : List Char} (free : mark ∉ before)
    (after : List Char) : cutAt mark (before ++ mark :: after) = some (before, after) := by
  induction before with
  | nil => simp [cutAt]
  | cons c rest later =>
    rw [List.mem_cons, not_or] at free
    rw [List.cons_append, cutAt, if_neg (Ne.symm free.1), later free.2]
    rfl

/-! Cutting at every separator -/

variable {separator : List Char}

theorem splitOn_ne_nil (separator text : List Char) : splitOn separator text ≠ [] := by
  fun_induction splitOn separator text with
  | case1 => simp
  | case2 => simp
  | case3 c rest _ later => simpa [List.modifyHead_eq_nil_iff] using later

/-- Where a separator starts, it ends behind all but one of its characters. -/
private theorem append_drop {c : Char} {rest : List Char} (some : separator ≠ [])
    (starts : separator <+: c :: rest) :
    separator ++ rest.drop (separator.length - 1) = c :: rest := by
  cases separator with
  | nil => exact absurd rfl some
  | cons head tail =>
    obtain ⟨after, whole⟩ := starts
    obtain ⟨rfl, rfl⟩ := List.cons.inj whole
    simp

/-- Joining undoes cutting. -/
theorem intercalate_splitOn (separator text : List Char) :
    separator.intercalate (splitOn separator text) = text := by
  fun_induction splitOn separator text with
  | case1 => simp
  | case2 c rest starts later =>
    rw [List.intercalate_cons_of_ne_nil (splitOn_ne_nil separator _), later, List.nil_append]
    exact append_drop starts.1 (List.isPrefixOf_iff_prefix.mp starts.2)
  | case3 c rest other later =>
    obtain ⟨head, tail, pieces⟩ := List.exists_cons_of_ne_nil (splitOn_ne_nil separator rest)
    rw [pieces] at later ⊢
    rw [List.modifyHead_cons, List.intercalate_cons_cons_left, later]

private theorem prefix_intercalate (separator head : List Char) (tail : List (List Char)) :
    head <+: separator.intercalate (head :: tail) := by
  cases tail with
  | nil => simp
  | cons next rest => simp [List.intercalate_cons_cons]

/-- No piece contains the separator. -/
theorem apart_of_mem_splitOn (some : separator ≠ []) (text : List Char) :
    ∀ piece ∈ splitOn separator text, ¬ separator <:+: piece := by
  fun_induction splitOn separator text with
  | case1 => simp [some]
  | case2 c rest starts later =>
    exact List.forall_mem_cons.mpr ⟨mt List.infix_nil.mp some, later⟩
  | case3 c rest other later =>
    have absent : ¬ separator <+: c :: rest := fun starts =>
      other ⟨some, List.isPrefixOf_iff_prefix.mpr starts⟩
    have whole := intercalate_splitOn separator rest
    obtain ⟨head, tail, pieces⟩ := List.exists_cons_of_ne_nil (splitOn_ne_nil separator rest)
    rw [pieces] at later whole ⊢
    obtain ⟨first, others⟩ := List.forall_mem_cons.mp later
    rw [List.modifyHead_cons, List.forall_mem_cons]
    refine ⟨fun inside => ?_, others⟩
    -- A separator in the lengthened piece would start the text, or lie in the piece before.
    rcases List.infix_cons_iff.mp inside with starts | inside
    · refine absent (starts.trans (List.cons_prefix_cons.mpr ⟨rfl, ?_⟩))
      exact whole ▸ prefix_intercalate separator head tail
    · exact first inside

/-- No proper part of the text is both its beginning and its end. -/
def Unbordered (text : List Char) : Prop :=
  ∀ border, border ≠ [] → border <+: text → border <:+ text → border = text

instance : DecidablePred Unbordered := fun text =>
  decidable_of_iff (∀ border ∈ text.inits, border ≠ [] → border <:+ text → border = text)
    ⟨fun each border some starts => each border ((List.mem_inits ..).mpr starts) some,
      fun unbordered border member some =>
        unbordered border some ((List.mem_inits ..).mp member)⟩

theorem unbordered_singleton (mark : Char) : Unbordered [mark] := by
  intro border some starts _
  cases border with
  | nil => exact absurd rfl some
  | cons c rest =>
    obtain ⟨rfl, nothing⟩ := List.cons_prefix_cons.mp starts
    rw [List.prefix_nil.mp nothing]

/-- A separator that does not overlap itself does not start inside a piece free of it. -/
private theorem not_starts_across (unbordered : Unbordered separator) {piece : List Char}
    (some : piece ≠ []) (apart : ¬ separator <:+: piece) (rest : List Char) :
    ¬ separator <+: piece ++ (separator ++ rest) := by
  intro starts
  rcases Nat.le_total separator.length piece.length with short | long
  · exact apart (List.prefix_of_prefix_length_le starts (List.prefix_append ..) short).isInfix
  · -- What the separator has left behind the piece is both its beginning and its end.
    obtain ⟨border, rfl⟩ := List.prefix_of_prefix_length_le (List.prefix_append ..) starts long
    have begins : border <+: piece ++ border := by
      rw [List.prefix_append_right_inj] at starts
      exact List.prefix_of_prefix_length_le starts (List.prefix_append ..) (by simp)
    have left : border ≠ [] := by
      rintro rfl
      exact apart (by simp)
    have same := unbordered border left begins (List.suffix_append ..)
    exact some (List.self_eq_append_left.mp same)

theorem splitOn_apart {piece : List Char} (apart : ¬ separator <:+: piece) :
    splitOn separator piece = [piece] := by
  induction piece with
  | nil => rw [splitOn]
  | cons c rest later =>
    rw [List.infix_cons_iff, not_or] at apart
    have other : ¬ (separator ≠ [] ∧ separator.isPrefixOf (c :: rest)) := fun starts =>
      apart.1 (List.isPrefixOf_iff_prefix.mp starts.2)
    rw [splitOn, if_neg other, later apart.2]
    rfl

theorem splitOn_append (some : separator ≠ []) (unbordered : Unbordered separator)
    {piece : List Char} (apart : ¬ separator <:+: piece) (rest : List Char) :
    splitOn separator (piece ++ (separator ++ rest)) = piece :: splitOn separator rest := by
  induction piece with
  | nil =>
    obtain ⟨head, tail, rfl⟩ := List.exists_cons_of_ne_nil some
    have starts : (head :: tail).isPrefixOf (head :: (tail ++ rest)) := by simp
    rw [List.nil_append, List.cons_append, splitOn, if_pos ⟨some, starts⟩]
    simp
  | cons c piece later =>
    have other : ¬ (separator ≠ [] ∧
        separator.isPrefixOf (c :: (piece ++ (separator ++ rest)))) := fun starts =>
      not_starts_across unbordered (by simp) apart rest (List.isPrefixOf_iff_prefix.mp starts.2)
    rw [List.infix_cons_iff, not_or] at apart
    rw [List.cons_append, splitOn, if_neg other, later apart.2]
    rfl

/-- Cutting undoes joining. -/
theorem splitOn_intercalate (some : separator ≠ []) (unbordered : Unbordered separator)
    {pieces : List (List Char)} (nonempty : pieces ≠ [])
    (apart : ∀ piece ∈ pieces, ¬ separator <:+: piece) :
    splitOn separator (separator.intercalate pieces) = pieces := by
  induction pieces with
  | nil => exact absurd rfl nonempty
  | cons piece others later =>
    obtain ⟨first, further⟩ := List.forall_mem_cons.mp apart
    cases others with
    | nil => rw [List.intercalate_singleton, splitOn_apart first]
    | cons next rest =>
      rw [List.intercalate_cons_cons, List.append_assoc, splitOn_append some unbordered first,
        later (by simp) further]

end QueryGate.Text

namespace QueryGate.PredicateRoundTrip
open Text

/-- A predicate written out: the operation, the main delimiter, and the arguments with their
delimiter between neighbours. -/
def assemble (delimiters : Delimiters) (predicate : Predicate) : String :=
  predicate.operation ++ String.singleton delimiters.main
    ++ delimiters.args.intercalate predicate.args

/-- The text contains the piece. -/
def Contains (text piece : String) : Prop := piece.toList <:+: text.toList

variable (delimiters : Delimiters)

theorem toList_assemble (predicate : Predicate) :
    (assemble delimiters predicate).toList =
      predicate.operation.toList ++ delimiters.main ::
        delimiters.args.toList.intercalate (predicate.args.map String.toList) := by
  simp [assemble, String.toList_intercalate]

/-! What is read is what was written -/

theorem split_of_unmarked {text : String} (unmarked : delimiters.main ∉ text.toList) :
    delimiters.split text = ⟨text, []⟩ := by
  rw [Delimiters.split, cutAt_eq_none_iff.mpr unmarked]

theorem split_of_cut {text : String} {operation rest : List Char}
    (cut : cutAt delimiters.main text.toList = some (operation, rest)) :
    delimiters.split text = ⟨String.ofList operation, delimiters.splitArgs rest⟩ := by
  rw [Delimiters.split, cut]

/-- The arguments of a text, joined again, are the text. -/
theorem intercalate_splitArgs (text : List Char) :
    delimiters.args.toList.intercalate ((delimiters.splitArgs text).map String.toList) = text := by
  rw [Delimiters.splitArgs]
  split
  · rename_i none
    rw [List.isEmpty_iff.mp none]
    rfl
  · simp [Function.comp_def, intercalate_splitOn]

theorem apart_of_mem_splitArgs (some : delimiters.args ≠ "") (text : List Char) :
    ∀ arg ∈ delimiters.splitArgs text, ¬ Contains arg delimiters.args := by
  intro arg member
  rw [Delimiters.splitArgs] at member
  split at member
  · cases member
  · obtain ⟨piece, inside, rfl⟩ := List.mem_map.mp member
    rw [Contains, String.toList_ofList]
    exact apart_of_mem_splitOn (by simpa using some) text piece inside

/-- Arguments that the delimiter keeps apart are read from their joined text. -/
theorem splitArgs_intercalate (some : delimiters.args ≠ "")
    (unbordered : Unbordered delimiters.args.toList) {args : List String} (given : args ≠ [])
    (notBlank : args ≠ [""]) (apart : ∀ arg ∈ args, ¬ Contains arg delimiters.args) :
    delimiters.splitArgs (delimiters.args.toList.intercalate (args.map String.toList)) = args := by
  have separates : delimiters.args.toList ≠ [] := by simpa using some
  have pieces : splitOn delimiters.args.toList
      (delimiters.args.toList.intercalate (args.map String.toList)) = args.map String.toList :=
    splitOn_intercalate separates unbordered (by simpa using given) (List.forall_mem_map.mpr apart)
  -- The joined text is not empty: it has a delimiter, or else it is the only argument.
  have visible : delimiters.args.toList.intercalate (args.map String.toList) ≠ [] := by
    intro empty
    rw [empty, splitOn] at pieces
    obtain ⟨arg, rfl, blank⟩ := List.map_eq_singleton_iff.mp pieces.symm
    rw [String.toList_eq_nil_iff.mp blank] at notBlank
    exact notBlank rfl
  rw [Delimiters.splitArgs, if_neg (by simpa using visible), pieces, List.map_map]
  simp [Function.comp_def]

/-- Reading a predicate loses nothing: without the main delimiter all of it is the operation;
otherwise its parts, written out, are the predicate again, and they are free of the delimiters that
end them. Writing loses nothing either, as long as the argument delimiter does not overlap itself,
which one character never does, and no argument contains it. -/
theorem split_inverts_assembly :
    (∀ text : String, delimiters.main ∉ text.toList → delimiters.split text = ⟨text, []⟩) ∧
    (∀ text : String, delimiters.main ∈ text.toList →
      assemble delimiters (delimiters.split text) = text ∧
      delimiters.main ∉ (delimiters.split text).operation.toList ∧
      (delimiters.args ≠ "" →
        ∀ arg ∈ (delimiters.split text).args, ¬ Contains arg delimiters.args)) ∧
    (∀ (operation : String) (args : List String), delimiters.main ∉ operation.toList →
      delimiters.args ≠ "" → Unbordered delimiters.args.toList → args ≠ [] → args ≠ [""] →
      (∀ arg ∈ args, ¬ Contains arg delimiters.args) →
      delimiters.split (assemble delimiters ⟨operation, args⟩) = ⟨operation, args⟩) ∧
    ∀ mark : Char, Unbordered [mark] := by
  refine ⟨fun _ => split_of_unmarked delimiters, ?_, ?_, unbordered_singleton⟩
  · intro text marked
    obtain ⟨⟨operation, rest⟩, cut⟩ : ∃ sides, cutAt delimiters.main text.toList = some sides :=
      Option.ne_none_iff_exists'.mp fun uncut => cutAt_eq_none_iff.mp uncut marked
    obtain ⟨whole, free⟩ := cutAt_eq_some cut
    rw [split_of_cut delimiters cut]
    refine ⟨?_, by simpa using free, fun some => apart_of_mem_splitArgs delimiters some rest⟩
    rw [← String.toList_inj, toList_assemble, intercalate_splitArgs, String.toList_ofList, whole]
  · intro operation args free some unbordered given notBlank apart
    have cut := cutAt_append free (delimiters.args.toList.intercalate (args.map String.toList))
    rw [← toList_assemble delimiters ⟨operation, args⟩] at cut
    rw [split_of_cut delimiters cut,
      splitArgs_intercalate delimiters some unbordered given notBlank apart, String.ofList_toList]

/-- A delimiter of two characters, each of which may stand in an argument. -/
def worded : Delimiters := ⟨'=', "ab"⟩

theorem worded_predicate_read_back :
    worded.split (assemble worded ⟨"in", ["a", "", "b=a"]⟩) = ⟨"in", ["a", "", "b=a"]⟩ ∧
      worded.split "isnull" = ⟨"isnull", []⟩ := by
  obtain ⟨unmarked, -, read, -⟩ := split_inverts_assembly worded
  have apart : ∀ arg ∈ ["a", "", "b=a"], ¬ Contains arg worded.args := by
    simp only [Contains]
    decide
  exact ⟨read "in" ["a", "", "b=a"] (by decide) (by decide) (by decide) (by simp) (by simp) apart,
    unmarked "isnull" (by decide)⟩

/-- A delimiter that overlaps itself may be found too early. -/
example : (⟨'=', "aa"⟩ : Delimiters).split "in=baaac" = ⟨"in", ["b", "ac"]⟩ := by cbv

end QueryGate.PredicateRoundTrip
