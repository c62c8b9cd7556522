import QueryGate.Proofs.FirstFailure
import QueryGate.Proofs.PolicySettings

/-! The columns of a statement, resolved and checked. They depend on the fields that a query lists
for the resource and on nothing else in it: listing none is not the same as not listing any, names
that lead to one column select it once, and the first column that is not allowed is refused. -/
namespace QueryGate.ColumnResolution
open FirstFailure Outcomes PolicySettings PolicyStages

/-- The columns that calls allow to be selected, each once, in the order in which they first came:
those on the lists that the calls gave, or the default fields if no call gave a list. -/
def allowedColumns (settings : List Setting) (defaults : List String) : List String :=
  (if selectLists settings = [] then defaults else (selectLists settings).flatten).eraseDups

/-- What the columns of a query are where these columns are allowed. -/
structure Resolves (policy : Policy) (allowed : List String) (query : Query) : Prop where
  all : policy.selectAll = true → policy.columns query = .ok allowed
  accepted : policy.selectAll = false → ∀ columns, LeadsTo policy query columns →
    (∀ column ∈ columns, column ∈ allowed) → policy.columns query = .ok columns
  /-- Of several columns that are not allowed, the first one is named. -/
  refused : policy.selectAll = false → ∀ before column after,
    LeadsTo policy query (before ++ column :: after) → (∀ earlier ∈ before, earlier ∈ allowed) →
    column ∉ allowed → policy.columns query = .error (.fieldNotAllowed column .select)
  /-- Names without columns are refused before any column is checked. -/
  unresolved : policy.selectAll = false → ∀ names error,
    query.fieldsFor policy.resource = some names → Unresolved policy names error →
    policy.columns query = .error error

variable {policy : Policy} {query : Query}

/-- A policy keeps the columns that its calls allow in the order of the calls. -/
theorem names_selectable_configured (resource : String) (resolver : Resolver)
    (settings : List Setting) :
    (configured resource resolver settings).selectableColumns.names =
      allowedColumns settings (configured resource resolver settings).defaultFields := by
  rw [Policy.selectableColumns, configured, selectable_applyAll, allowedColumns]
  by_cases unlisted : selectLists settings = []
  · rw [if_pos unlisted, if_pos unlisted]
    exact NameSet.names_ofList _
  · have flat : (selectLists settings).foldl NameSet.insertAll ∅ =
        NameSet.ofList (selectLists settings).flatten := List.foldl_flatten.symm
    rw [if_neg unlisted, if_neg unlisted, ← NameSet.names_ofList, ← flat]
    rfl

/-- A query leads to columns, unless the names that it lists have none. -/
theorem leadsTo_or_unresolved (policy : Policy) (query : Query) :
    (∃ columns, LeadsTo policy query columns) ∨ ∃ names error,
      query.fieldsFor policy.resource = some names ∧ Unresolved policy names error := by
  cases listed : query.fieldsFor policy.resource with
  | none => exact .inl ⟨_, .default listed⟩
  | some names =>
    cases returned : policy.resolver names with
    | error error => exact .inr ⟨names, error, rfl, .refused returned⟩
    | ok columns =>
      by_cases complete : columns.length = names.length
      · exact .inl ⟨_, .requested listed returned complete⟩
      · exact .inr ⟨names, _, rfl, .miscounted returned complete⟩

private theorem columns_of_all (on : policy.selectAll = true) :
    policy.columns query = .ok policy.selectableColumns.names := by
  rw [columns_eq, if_pos on]

private theorem columns_of_leadsTo (off : policy.selectAll = false) {columns : List String}
    (leads : LeadsTo policy query columns) :
    policy.columns query = policy.checkColumns columns := by
  rw [columns_eq, off, candidates_iff_leadsTo.mpr leads]
  rfl

private theorem columns_of_unresolved (off : policy.selectAll = false) {names : List String}
    {error : Error} (listed : query.fieldsFor policy.resource = some names)
    (unresolved : Unresolved policy names error) : policy.columns query = .error error := by
  rw [columns_eq, off, candidates_eq_error_iff.mpr ⟨names, listed, unresolved⟩]
  rfl

/-- Only the fields that the query lists for the resource are looked at. -/
theorem columns_of_same_fields {other : Query}
    (same : other.fieldsFor policy.resource = query.fieldsFor policy.resource) :
    policy.columns other = policy.columns query := by
  rw [columns_eq, columns_eq, Policy.candidates, Policy.candidates, same]

/-- Whatever the policy, its columns are resolved in the order of its selectable ones. -/
theorem resolves_selectable (policy : Policy) (query : Query) :
    Resolves policy policy.selectableColumns.names query where
  all := columns_of_all
  accepted := fun off columns leads allowed => by
    rw [columns_of_leadsTo off leads]
    exact checkColumns_eq_ok_iff.mpr ⟨rfl, allowed⟩
  refused := fun off before column after leads allowed outside => by
    rw [columns_of_leadsTo off leads, checkColumns_decided _ _, firstFails_append_iff]
    refine .inr ⟨fun earlier member error unselectable => ?_, .here ⟨outside, rfl⟩⟩
    exact unselectable.1 (allowed earlier member)
  unresolved := fun off names error listed unresolved =>
    columns_of_unresolved off listed unresolved

/-- The columns of a query under any policy, whatever its resolver and its extensions. A policy that
selects everything gives the columns that its calls allow and asks no resolver. Otherwise the query
leads to columns, or its names are unresolved; columns that are all allowed are selected as they
are, and else the first that is not is refused. Nothing but the fields that the query lists for the
resource matters. -/
theorem columns_follow_listed_fields (resource : String) (resolver : Resolver)
    (settings : List Setting) (extensions : List Extension) (query : Query) :
    let policy : Policy := { configured resource resolver settings with extensions }
    Resolves policy (allowedColumns settings policy.defaultFields) query ∧
      ((∃ columns, LeadsTo policy query columns) ∨ ∃ names error,
        query.fieldsFor policy.resource = some names ∧ Unresolved policy names error) ∧
      (policy.selectAll = true → ∀ other resolver,
        { policy with resolver }.columns other = policy.columns query) ∧
      (∀ other, other.fieldsFor policy.resource = query.fieldsFor policy.resource →
        policy.columns other = policy.columns query) := by
  intro policy
  have allowed : policy.selectableColumns.names = allowedColumns settings policy.defaultFields :=
    names_selectable_configured resource resolver settings
  refine ⟨allowed ▸ resolves_selectable policy query, leadsTo_or_unresolved policy query,
    fun on other resolver => ?_, fun other => columns_of_same_fields⟩
  have unasked (resolver : Resolver) (asked : Query) :
      { policy with resolver }.columns asked = .ok policy.selectableColumns.names := columns_of_all on
  exact (unasked resolver other).trans (unasked policy.resolver query).symm

/-- Two names lead to one column, and one name leads to a column that is not allowed. -/
def albumColumns : Resolver :=
  .ofTable (.ofList [("name", "title"), ("title", "title"), ("cost", "price")])

/-- Two lists of columns, and a column that is always selected. -/
def albumSettings : List Setting :=
  [.defaultFields ["id"], .allowSelecting ["title", "id"], .alwaysSelect ["id"],
    .allowSelecting ["id", "year"]]

def albumFields (names : List String) : Query where
  fields := .ofList [("songs", ["cost"]), ("albums", names)]

/-- Columns come once, an empty list leaves the columns that are always selected, and the first
column that is not allowed is refused. Selecting everything needs none of the names. -/
theorem albums_resolved :
    let albums := configured "albums" albumColumns albumSettings
    albums.columns (albumFields ["title", "name"]) = .ok ["title", "id"] ∧
      albums.columns (albumFields []) = .ok ["id"] ∧
      albums.columns (albumFields ["name", "cost"]) = .error (.fieldNotAllowed "price" .select) ∧
      (albums.withSelectAll true).columns (albumFields ["cost"]) = .ok ["title", "id", "year"] := by
  intro albums
  obtain ⟨doubled, -⟩ := columns_follow_listed_fields "albums" albumColumns albumSettings []
    (albumFields ["title", "name"])
  obtain ⟨listed, -⟩ := columns_follow_listed_fields "albums" albumColumns albumSettings []
    (albumFields [])
  obtain ⟨priced, -⟩ := columns_follow_listed_fields "albums" albumColumns albumSettings []
    (albumFields ["name", "cost"])
  obtain ⟨everything, -⟩ := columns_follow_listed_fields "albums" albumColumns
    (albumSettings ++ [.selectAll true]) [] (albumFields ["cost"])
  have once : LeadsTo albums (albumFields ["title", "name"])
      (["title", "title"] ++ albums.alwaysSelect).eraseDups := .requested rfl rfl rfl
  have nothing : LeadsTo albums (albumFields []) ([] ++ albums.alwaysSelect).eraseDups :=
    .requested rfl rfl rfl
  have outside : LeadsTo albums (albumFields ["name", "cost"])
      (["title", "price"] ++ albums.alwaysSelect).eraseDups := .requested rfl rfl rfl
  exact ⟨doubled.accepted rfl ["title", "id"] once (by decide),
    listed.accepted rfl ["id"] nothing (by decide),
    priced.refused rfl ["title"] "price" ["id"] outside (by decide) (by decide),
    everything.all rfl⟩

end QueryGate.ColumnResolution
