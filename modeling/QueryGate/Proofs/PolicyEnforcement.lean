import QueryGate.Proofs.PagingProofs
import QueryGate.Proofs.PolicySettings
import QueryGate.Proofs.PolicyStageProofs

/-! No way around a policy. Whatever a query asks for, the statement that is built for it selects
and sorts by listed columns only, and filters by granted conditions only. -/
namespace QueryGate.PolicyEnforcement
open PolicySettings PolicyStages PageRule

/-- The statement holds what a policy configured by these calls grants to a query, and no more. -/
structure Obeys (policy : Policy) (settings : List Setting) (query : Query)
    (statement : Select) : Prop where
  /-- Every column stands on some list of selectable columns, or on that of the default fields
  while there is no such list. -/
  columns : ∀ node ∈ statement.columns, ∃ names, node = .columns names ∧ ∀ name ∈ names,
    if selectLists settings = [] then name ∈ policy.defaultFields
    else ∃ fields ∈ selectLists settings, name ∈ fields
  /-- The conditions stand one for one for the filters, and each is granted to its filter. -/
  conditions : List.Forall₂ (Grants policy) query.filters statement.conditions
  /-- The terms stand one for one for the directives, with the columns that the names of all
  directives lead to as one batch, and every column stands on some list of sortable columns. -/
  ordering : if query.sort = [] then statement.ordering = [] else
    ∃ columns, policy.resolver (query.sort.map SortDirective.field) = .ok columns ∧
      columns.length = query.sort.length ∧
      (∀ column ∈ columns, ∃ fields ∈ sortLists settings, column ∈ fields) ∧
      statement.ordering = [.orderBy
        (query.sort.zipWith (fun directive column => ⟨column, directive.direction⟩) columns)]
  /-- Rows come from the resource, and nothing is joined, grouped or made distinct. -/
  source : statement.source = some policy.resource
  joins : statement.joins = []
  groups : statement.groups = []
  having : statement.having = []
  distinct : statement.distinct = false

private theorem columns_of_nodes {names : List String} {allowed : String → Prop}
    (each : ∀ name ∈ names, allowed name) :
    ∀ node ∈ columnNodes names, ∃ names, node = .columns names ∧ ∀ name ∈ names, allowed name := by
  intro node member
  rw [columnNodes] at member
  split at member
  · cases member
  · exact ⟨names, List.mem_singleton.mp member, each⟩

private theorem orderNodes_zipWith {directives : List SortDirective} {columns : List String}
    (nonempty : directives ≠ []) (complete : columns.length = directives.length) :
    let terms := directives.zipWith (fun directive column => ⟨column, directive.direction⟩) columns
    orderNodes terms = [.orderBy terms] := by
  intro terms
  have counted : terms.length = directives.length := by
    rw [List.length_zipWith, complete, Nat.min_self]
  have visible : terms ≠ [] := by
    intro empty
    rw [empty] at counted
    exact nonempty (List.eq_nil_of_length_eq_zero counted.symm)
  rw [orderNodes, if_neg visible]

/-- Every statement that is built under a configured policy obeys it, for any resolver, registry
and parser, any list of built-in extensions and any query. -/
theorem build_obeys_policy {resource : String} {resolver : Resolver} {settings : List Setting}
    {context : Context} {query : Query} {statement : Select}
    (built : (configured resource resolver settings).build context query = .ok statement) :
    Obeys (configured resource resolver settings) settings query statement := by
  obtain ⟨columns, conditions, terms, selected, filtered, sorted, ran⟩ := build_eq_ok_iff.mp built
  rw [extensions_configured] at ran
  have frame := runAll_frame ran
  rw [assembled_eq, Option.getD_none] at frame
  rw [frame]
  refine { columns := ?_, conditions := conditions_eq_ok_iff.mp filtered, ordering := ?_,
           source := ?_, joins := rfl, groups := rfl, having := rfl, distinct := rfl }
  · exact columns_of_nodes fun name member =>
      mem_selectable_configured.mp (columns_selectable selected name member)
  · have sorting := sortTerms_eq_ok_iff.mp sorted
    by_cases unsorted : query.sort = []
    · rw [if_pos unsorted] at sorting ⊢
      rw [sorting]
      rfl
    · rw [if_neg unsorted] at sorting ⊢
      obtain ⟨resolved, found, complete, allowed, rfl⟩ := sorting
      refine ⟨resolved, found, complete, fun column member => ?_, ?_⟩
      · exact mem_sortable_configured.mp (allowed column member)
      · exact orderNodes_zipWith unsorted complete
  · rfl

def articleSettings : List Setting :=
  [.allowSelecting ["id"], .allowSelecting ["title"], .allowSorting ["created_at"],
    .filters (.ofList [("id", ["eq"])]), .parser fun text => .ok ⟨"eq", [text]⟩,
    .extend (.defaultLimit 20)]

def articleColumns : Resolver :=
  .ofTable (.ofList [("id", "id"), ("title", "title"), ("createdAt", "created_at")])

def articleQuery : Query where
  fields := .ofList [("articles", ["id", "title"])]
  filters := [⟨"id", "7"⟩]
  sort := [⟨"createdAt", .desc⟩]

def articleStatement : Select where
  columns := [.columns ["id", "title"]]
  source := some "articles"
  conditions := [.compare "id" .eq (.text "7")]
  ordering := [.orderBy [⟨"created_at", .desc⟩]]
  limit := some 20

theorem articles_obey_policy :
    (configured "articles" articleColumns articleSettings).build {} articleQuery =
        .ok articleStatement ∧
      Obeys (configured "articles" articleColumns articleSettings) articleSettings articleQuery
        articleStatement :=
  have built : (configured "articles" articleColumns articleSettings).build {} articleQuery =
      .ok articleStatement := rfl
  ⟨built, build_obeys_policy built⟩

end QueryGate.PolicyEnforcement
