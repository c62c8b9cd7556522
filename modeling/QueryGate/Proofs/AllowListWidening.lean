import QueryGate.Proofs.FirstFailure
import QueryGate.Proofs.PolicySettings

/-! Allow-lists permit, and do no more. A policy whose lists are wider accepts every query that the
narrower one accepts, with the same statement; so neither the order of the names on a list nor the
calls over which they are spread can be seen in a statement. -/
namespace QueryGate.AllowListWidening
open FirstFailure Outcomes PolicySettings PolicyStages

/-- The policies agree on everything but their allow-lists. -/
def AgreeBeyondLists (first second : Policy) : Prop :=
  second = { first with
    selectable := second.selectable, sortable := second.sortable, filterable := second.filterable }

/-- The policies differ in their allow-lists only, and what the first one permits, the second one
permits too. While no columns are listed, the default fields may be selected. -/
structure Widens (first second : Policy) : Prop where
  rest : AgreeBeyondLists first second
  columns : ∀ column ∈ first.selectableColumns, column ∈ second.selectableColumns
  sorting : ∀ column ∈ first.sortable, column ∈ second.sortable
  filters : ∀ field operation, first.filterable.Permits field operation →
    second.filterable.Permits field operation

variable {first second : Policy} {query : Query}

/-! Stages under wider lists -/

private theorem leadsTo_of_widens (widens : Widens first second) {columns : List String}
    (leads : LeadsTo first query columns) : LeadsTo second query columns := by
  rw [widens.rest]
  cases leads with
  | requested listed resolved complete => exact .requested listed resolved complete
  | default unlisted => exact .default unlisted

private theorem columns_of_widens (widens : Widens first second) (off : first.selectAll = false)
    {columns : List String} (selected : first.columns query = .ok columns) :
    second.columns query = .ok columns := by
  have offToo : second.selectAll = false := by
    rw [widens.rest]
    exact off
  cases columns_iff_selects.mp selected with
  | all on => cases off.symm.trans on
  | chosen _ leads allowed =>
    exact columns_iff_selects.mpr (.chosen offToo (leadsTo_of_widens widens leads)
      fun column member => widens.columns column (allowed column member))

private theorem grants_of_widens (widens : Widens first second) {filter : Filter}
    {condition : Expr} (grants : Grants first filter condition) :
    Grants second filter condition := by
  obtain ⟨operations, column, predicate, make, known, resolved, parsed, allowed, made⟩ := grants
  obtain ⟨wider, knownToo, member⟩ := widens.filters _ _ ⟨operations, known, allowed⟩
  rw [widens.rest]
  exact ⟨wider, column, predicate, make, knownToo, resolved, parsed, member, made⟩

private theorem sorts_of_widens (widens : Widens first second) {directives : List SortDirective}
    {terms : List SortTerm} (sorts : Sorts first directives terms) :
    Sorts second directives terms := by
  obtain ⟨columns, resolved, complete, allowed, rfl⟩ := sorts
  rw [widens.rest]
  exact ⟨columns, resolved, complete,
    fun column member => widens.sorting column (allowed column member), rfl⟩

private theorem sortTerms_of_widens (widens : Widens first second) {terms : List SortTerm}
    (sorted : first.sortTerms query = .ok terms) : second.sortTerms query = .ok terms := by
  rw [sortTerms_eq_ok_iff] at sorted ⊢
  by_cases unsorted : query.sort = []
  · rw [if_pos unsorted] at sorted ⊢
    exact sorted
  · rw [if_neg unsorted] at sorted ⊢
    exact sorts_of_widens widens sorted

/-- Wider lists accept what narrower ones do, with the same statement. -/
theorem build_of_widens (widens : Widens first second) (off : first.selectAll = false)
    {context : Context} {supplied : Option Select} {built : Select}
    (succeeded : first.build context query supplied = .ok built) :
    second.build context query supplied = .ok built := by
  obtain ⟨columns, conditions, terms, selected, filtered, sorted, ran⟩ :=
    build_eq_ok_iff.mp succeeded
  have granted := (conditions_eq_ok_iff.mp filtered).imp fun _ _ => grants_of_widens widens
  refine build_eq_ok_iff.mpr ⟨columns, conditions, terms, columns_of_widens widens off selected,
    conditions_eq_ok_iff.mpr granted, sortTerms_of_widens widens sorted, ?_⟩
  rw [widens.rest]
  exact ran

/-! Allow-lists call by call -/

/-- The call lists columns to select or to sort by. -/
def listsColumns : Setting → Bool
  | .allowSelecting _ | .allowSorting _ => true
  | _ => false

/-- The calls that list no columns. -/
def otherCalls (calls : List Setting) : List Setting := calls.filter fun call => !listsColumns call

theorem AgreeBeyondLists.refl (policy : Policy) : AgreeBeyondLists policy policy := rfl

theorem AgreeBeyondLists.symm (agree : AgreeBeyondLists first second) :
    AgreeBeyondLists second first := by
  rw [AgreeBeyondLists] at agree ⊢
  rw [agree]

theorem AgreeBeyondLists.trans {third : Policy} (agree : AgreeBeyondLists first second)
    (onward : AgreeBeyondLists second third) : AgreeBeyondLists first third := by
  rw [AgreeBeyondLists] at agree onward ⊢
  rw [onward, agree]

/-- A call that lists columns changes nothing beyond the lists. -/
private theorem agree_of_listsColumns {call : Setting} (lists : listsColumns call = true) :
    AgreeBeyondLists first (apply first call) := by
  cases call with
  | allowSelecting fields => rfl
  | allowSorting fields => rfl
  | _ => cases lists

/-- Beyond the lists, what a call makes of a policy does not depend on its lists. -/
private theorem AgreeBeyondLists.apply (agree : AgreeBeyondLists first second) (call : Setting) :
    AgreeBeyondLists (PolicySettings.apply first call) (PolicySettings.apply second call) := by
  rw [AgreeBeyondLists] at agree ⊢
  rw [agree]
  cases call <;> rfl

/-- Beyond the lists, only the other calls count. -/
theorem agree_otherCalls (agree : AgreeBeyondLists first second) (calls : List Setting) :
    AgreeBeyondLists (applyAll first (otherCalls calls)) (applyAll second calls) := by
  induction calls generalizing first second with
  | nil => exact agree
  | cons call rest later =>
    by_cases lists : listsColumns call = true
    · rw [otherCalls, List.filter_cons_of_neg (by simp [lists]), ← otherCalls]
      exact later (agree.trans (agree_of_listsColumns lists))
    · rw [otherCalls, List.filter_cons_of_pos (by simp [lists]), ← otherCalls]
      exact later (agree.apply call)

/-- A configuration with its allow-lists: the calls on a policy, then the operations of fields, one
entry for each call on them. -/
structure Listing where
  calls : List Setting
  entries : List (String × List String)

/-- The policy after the calls of a listing. -/
def listed (policy : Policy) (listing : Listing) : Policy :=
  (applyAll policy listing.calls).withFilters (.ofList listing.entries)

/-- The listings name the same columns and operations, in whatever order, repetition and division
into calls. Only whether columns to select were listed at all must be the same, and so must the
calls that list no columns. -/
structure SameNames (first second : Listing) : Prop where
  others : otherCalls first.calls = otherCalls second.calls
  fallback : selectLists first.calls = [] ↔ selectLists second.calls = []
  selecting : ∀ name, (∃ fields ∈ selectLists first.calls, name ∈ fields) ↔
    ∃ fields ∈ selectLists second.calls, name ∈ fields
  sorting : ∀ name, (∃ fields ∈ sortLists first.calls, name ∈ fields) ↔
    ∃ fields ∈ sortLists second.calls, name ∈ fields
  filtering : ∀ field operation,
    (∃ entry ∈ first.entries, entry.1 = field ∧ operation ∈ entry.2) ↔
      ∃ entry ∈ second.entries, entry.1 = field ∧ operation ∈ entry.2

theorem SameNames.symm {first second : Listing} (same : SameNames first second) :
    SameNames second first where
  others := same.others.symm
  fallback := same.fallback.symm
  selecting := fun name => (same.selecting name).symm
  sorting := fun name => (same.sorting name).symm
  filtering := fun field operation => (same.filtering field operation).symm

private theorem agree_applyAll {first second : List Setting}
    (others : otherCalls first = otherCalls second) (policy : Policy) :
    AgreeBeyondLists (applyAll policy first) (applyAll policy second) := by
  have one := agree_otherCalls (.refl policy) first
  have other := agree_otherCalls (.refl policy) second
  rw [← others] at other
  exact one.symm.trans other

private theorem agree_listed {first second : Listing} (same : SameNames first second)
    (policy : Policy) : AgreeBeyondLists (listed policy first) (listed policy second) :=
  (agree_applyAll same.others policy).apply (.filters (.ofList second.entries))

/-- The same names permit the same. -/
theorem widens_listed {first second : Listing} (same : SameNames first second) (policy : Policy) :
    Widens (listed policy first) (listed policy second) where
  rest := agree_listed same policy
  columns := by
    have defaults : (applyAll policy second.calls).defaultFields =
        (applyAll policy first.calls).defaultFields := by
      rw [agree_applyAll same.others policy]
    have columns : ∀ column ∈ (applyAll policy first.calls).selectableColumns,
        column ∈ (applyAll policy second.calls).selectableColumns := by
      intro column
      rw [mem_selectable_applyAll, mem_selectable_applyAll, defaults]
      simp only [same.fallback, same.selecting]
      exact id
    exact columns
  sorting := by
    have sorting : ∀ column ∈ (applyAll policy first.calls).sortable,
        column ∈ (applyAll policy second.calls).sortable := by
      intro column
      rw [mem_sortable_applyAll, mem_sortable_applyAll, same.sorting]
      exact id
    exact sorting
  filters := by
    intro field operation
    rw [listed, listed, Policy.withFilters, Policy.withFilters, AllowedFilters.permits_ofList,
      AllowedFilters.permits_ofList, same.filtering]
    exact id

/-- Wider allow-lists never change an accepted query, and neither do the order of the names and
their division into calls. Selecting everything permitted is off: it puts the list itself into the
statement. -/
theorem wider_lists_keep_accepted :
    (∀ first second : Policy, Widens first second → first.selectAll = false →
        second.selectAll = false →
      ∀ (context : Context) (query : Query) (supplied : Option Select) (built : Select),
        first.build context query supplied = .ok built →
          second.build context query supplied = .ok built) ∧
      ∀ (policy : Policy) (first second : Listing), SameNames first second →
          (listed policy first).selectAll = false →
        ∀ (context : Context) (query : Query) (supplied : Option Select) (built : Select),
          (listed policy first).build context query supplied = .ok built ↔
            (listed policy second).build context query supplied = .ok built := by
  refine ⟨fun first second widens off _ context query supplied built =>
    build_of_widens widens off, ?_⟩
  intro policy first second same off context query supplied built
  have offToo : (listed policy second).selectAll = false := by
    rw [agree_listed same policy]
    exact off
  exact ⟨build_of_widens (widens_listed same policy) off,
    build_of_widens (widens_listed same.symm policy) offToo⟩

/-- Songs with their titles by default. -/
def songs : Policy :=
  (Policy.new "songs" (.ofTable (.ofList [("released", "year")]))).withDefaultFields ["title"]

/-- The songs with a known year, the newest first. -/
def newSongs : Query where
  filters := [⟨"released", "notnull"⟩]
  sort := [⟨"released", .desc⟩]

/-- Just enough for the query; the titles may be selected because they are the default. -/
def narrowListing : Listing where
  calls := [.allowSorting ["year"]]
  entries := [("released", ["notnull"])]

/-- More columns and operations. -/
def wideListing : Listing where
  calls := [.allowSelecting ["artist", "title"], .allowSorting ["title", "year"]]
  entries := [("artist", ["eq"]), ("released", ["gt", "notnull"])]

/-- The same names again, in more calls and in another order. -/
def scatteredListing : Listing where
  calls := [.allowSorting ["year"], .allowSelecting ["title", "title"],
    .allowSorting ["title"], .allowSelecting ["artist"]]
  entries := [("released", ["notnull"]), ("artist", ["eq"]), ("released", ["gt"])]

theorem wide_widens_narrow : Widens (listed songs narrowListing) (listed songs wideListing) where
  rest := rfl
  columns := by decide
  sorting := by decide
  filters := by
    intro field operation
    simp only [listed, Policy.withFilters, AllowedFilters.permits_ofList]
    rintro ⟨entry, member, rfl, named⟩
    obtain rfl := List.mem_singleton.mp member
    exact ⟨_, List.mem_cons_of_mem _ List.mem_cons_self, rfl, List.mem_cons_of_mem _ named⟩

theorem wide_scattered_same : SameNames wideListing scatteredListing where
  others := rfl
  fallback := by simp [wideListing, scatteredListing, selectLists]
  selecting := by
    intro name
    simp [wideListing, scatteredListing, selectLists, or_comm]
  sorting := by
    intro name
    simp [wideListing, scatteredListing, sortLists, or_comm]
  filtering := by
    intro field operation
    simp only [wideListing, scatteredListing, List.mem_cons, List.not_mem_nil, or_false,
      exists_eq_or_imp, exists_eq_left]
    grind

theorem songs_widened :
    ∃ built, (listed songs narrowListing).selectAll = false ∧
      (listed songs narrowListing).build {} newSongs = .ok built ∧
      Widens (listed songs narrowListing) (listed songs wideListing) ∧
      (listed songs wideListing).build {} newSongs = .ok built ∧
      SameNames wideListing scatteredListing ∧
      (listed songs scatteredListing).build {} newSongs = .ok built := by
  obtain ⟨widened, scattered⟩ := wider_lists_keep_accepted
  obtain ⟨built, succeeded⟩ : ∃ built, (listed songs narrowListing).build {} newSongs = .ok built :=
    ⟨_, rfl⟩
  have wide := widened _ _ wide_widens_narrow rfl rfl {} newSongs none built succeeded
  exact ⟨built, rfl, succeeded, wide_widens_narrow, wide, wide_scattered_same,
    (scattered songs _ _ wide_scattered_same rfl {} newSongs none built).mp wide⟩

end QueryGate.AllowListWidening
