import QueryGate.Extension.Paging
import QueryGate.Policy

/-! Policies configured call by call. Lists of names add up over the calls, the other settings
keep what they were given last, and the extensions are the built-in ones, in call order. -/
namespace QueryGate.PolicySettings

/-- One call on a policy under construction. -/
inductive Setting where
  | defaultFields (fields : List String)
  | allowSelecting (fields : List String)
  | allowSorting (fields : List String)
  | filters (allowed : AllowedFilters)
  | conditions (conditionOf : String → Except Error Condition)
  | parser (parser : PredicateParser)
  | alwaysSelect (fields : List String)
  | selectAll (flag : Bool)
  | extend (rule : PageRule)

/-- A policy after one call. -/
def apply (policy : Policy) : Setting → Policy
  | .defaultFields fields => policy.withDefaultFields fields
  | .allowSelecting fields => policy.allowSelecting fields
  | .allowSorting fields => policy.allowSorting fields
  | .filters allowed => policy.withFilters allowed
  | .conditions conditionOf => { policy with conditionOf }
  | .parser parser => policy.withParser parser
  | .alwaysSelect fields => policy.withAlwaysSelect fields
  | .selectAll flag => policy.withSelectAll flag
  | .extend rule => policy.extend rule.extension

/-- A policy after calls in order. -/
def applyAll (policy : Policy) (settings : List Setting) : Policy := settings.foldl apply policy

/-- A new policy after calls in order. -/
def configured (resource : String) (resolver : Resolver) (settings : List Setting) : Policy :=
  applyAll (.new resource resolver) settings

/-- The lists of columns that calls allowed to be selected. -/
def selectLists : List Setting → List (List String) :=
  List.filterMap fun
    | .allowSelecting fields => some fields
    | _ => none

/-- The lists of columns that calls allowed to be sorted by. -/
def sortLists : List Setting → List (List String) :=
  List.filterMap fun
    | .allowSorting fields => some fields
    | _ => none

/-- The built-in extensions that calls added. -/
def rules : List Setting → List PageRule :=
  List.filterMap fun
    | .extend rule => some rule
    | _ => none

theorem extensions_applyAll (policy : Policy) (settings : List Setting) :
    (applyAll policy settings).extensions =
      policy.extensions ++ (rules settings).map PageRule.extension := by
  induction settings generalizing policy with
  | nil => exact (List.append_nil _).symm
  | cons setting rest later =>
    rw [applyAll, List.foldl_cons, ← applyAll, later]
    cases setting with
    | extend rule => simp [apply, Policy.extend, rules]
    | _ => rfl

theorem extensions_configured (resource : String) (resolver : Resolver)
    (settings : List Setting) :
    (configured resource resolver settings).extensions =
      (rules settings).map PageRule.extension := extensions_applyAll ..

theorem mem_foldl_insertAll {lists : List (List String)} {set : NameSet} {name : String} :
    name ∈ lists.foldl NameSet.insertAll set ↔ name ∈ set ∨ ∃ fields ∈ lists, name ∈ fields := by
  induction lists generalizing set with
  | nil => simp
  | cons fields rest later => simp [later, NameSet.mem_insertAll, or_assoc]

theorem sortable_applyAll (policy : Policy) (settings : List Setting) :
    (applyAll policy settings).sortable =
      (sortLists settings).foldl NameSet.insertAll policy.sortable := by
  induction settings generalizing policy with
  | nil => rfl
  | cons setting rest later =>
    rw [applyAll, List.foldl_cons, ← applyAll, later]
    cases setting <;> rfl

/-- The first list of columns to select starts the set, and the next ones add to it. -/
theorem selectable_applyAll (policy : Policy) (settings : List Setting) :
    (applyAll policy settings).selectable =
      if selectLists settings = [] then policy.selectable
      else some ((selectLists settings).foldl NameSet.insertAll (policy.selectable.getD ∅)) := by
  induction settings generalizing policy with
  | nil => rfl
  | cons setting rest later =>
    rw [applyAll, List.foldl_cons, ← applyAll, later]
    cases setting with
    | allowSelecting fields =>
      have lists : selectLists (.allowSelecting fields :: rest) = fields :: selectLists rest := rfl
      rw [lists, if_neg (List.cons_ne_nil fields _), List.foldl_cons]
      cases selectLists rest with
      | nil => rfl
      | cons other others => rfl
    | _ => rfl

/-- Columns to sort by that calls list add to those that the policy had. -/
theorem mem_sortable_applyAll {policy : Policy} {settings : List Setting} {name : String} :
    name ∈ (applyAll policy settings).sortable ↔
      name ∈ policy.sortable ∨ ∃ fields ∈ sortLists settings, name ∈ fields := by
  rw [sortable_applyAll, mem_foldl_insertAll]

/-- Columns to select that calls list add to those that the policy had listed. Without such a call,
it keeps its list, or its default fields if it had none. -/
theorem mem_selectable_applyAll {policy : Policy} {settings : List Setting} {name : String} :
    name ∈ (applyAll policy settings).selectableColumns ↔
      if selectLists settings = [] then
        name ∈ policy.selectable.getD (.ofList (applyAll policy settings).defaultFields)
      else name ∈ policy.selectable.getD ∅ ∨ ∃ fields ∈ selectLists settings, name ∈ fields := by
  rw [Policy.selectableColumns, selectable_applyAll]
  split
  · exact Iff.rfl
  · rw [Option.getD_some, mem_foldl_insertAll]

/-- The columns that a configured policy lets sort by are those that some call listed. -/
theorem mem_sortable_configured {resource : String} {resolver : Resolver}
    {settings : List Setting} {name : String} :
    name ∈ (configured resource resolver settings).sortable ↔
      ∃ fields ∈ sortLists settings, name ∈ fields := by
  rw [configured, mem_sortable_applyAll]
  exact or_iff_right NameSet.not_mem_empty

/-- The columns that a configured policy lets select are those that some call listed, or the
default fields if there was no such call. A call with no columns counts as one. -/
theorem mem_selectable_configured {resource : String} {resolver : Resolver}
    {settings : List Setting} {name : String} :
    name ∈ (configured resource resolver settings).selectableColumns ↔
      if selectLists settings = [] then
        name ∈ (configured resource resolver settings).defaultFields
      else ∃ fields ∈ selectLists settings, name ∈ fields := by
  rw [configured, mem_selectable_applyAll]
  split
  · exact NameSet.mem_ofList
  · exact or_iff_right NameSet.not_mem_empty

end QueryGate.PolicySettings
