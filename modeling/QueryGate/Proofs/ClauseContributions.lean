import Mathlib.Data.List.DropRight
import QueryGate.Proofs.StatementProofs

/-! A statement depends only on what each of its clauses received. The order in which changes to
different clauses were made does not show, and neither does how names, terms or conditions were
split over several changes. -/
namespace QueryGate.ClauseContributions
open QueryGate.Select QueryGate.Expr Outcomes

/-! What changes contribute -/

/-- A member of a clause that takes plain entries as well as whole nodes. -/
inductive Item (Entry : Type) where
  | entry (entry : Entry)
  | node (node : Expr)

/-- Names one by one, and nodes. -/
@[simp] def columnItems : Step → List (Item String)
  | .select names => names.map .entry
  | .column column => [.node column]
  | _ => []

@[simp] def joinNodes : Step → List Expr
  | .join join => [join]
  | _ => []

@[simp] def conditionNodes : Step → List Expr
  | .condition condition => [condition]
  | .conditions conditions => conditions
  | _ => []

@[simp] def groupNames : Step → List String
  | .groupBy names => names
  | _ => []

@[simp] def havingNodes : Step → List Expr
  | .having condition => [condition]
  | _ => []

/-- Terms one by one, and nodes. -/
@[simp] def orderingItems : Step → List (Item SortTerm)
  | .orderBy terms => terms.map .entry
  | .ordering node => [.node node]
  | _ => []

@[simp] def sourceGiven : Step → Option String
  | .source text => some text
  | _ => none

@[simp] def limitGiven : Step → Option UInt64
  | .limit limit => some limit
  | _ => none

@[simp] def offsetGiven : Step → Option UInt64
  | .offset offset => some offset
  | _ => none

@[simp] def makesDistinct : Step → Bool
  | .distinct => true
  | _ => false

@[simp] def clearsOrdering : Step → Bool
  | .clearOrdering => true
  | _ => false

/-- The steps after the last one that clears the ordering. -/
def sinceCleared (steps : List Step) : List Step :=
  steps.rtakeWhile fun step => !clearsOrdering step

/-- What every clause received, in order; the last source, limit and offset; and whether the
statement was made distinct. -/
structure Contributions where
  columns : List (Item String)
  source : Option String
  joins : List Expr
  conditions : List Expr
  groups : List String
  having : List Expr
  ordering : List (Item SortTerm)
  limit : Option UInt64
  offset : Option UInt64
  distinct : Bool

def contributions (steps : List Step) : Contributions where
  columns := steps.flatMap columnItems
  source := (steps.filterMap sourceGiven).getLast?
  joins := steps.flatMap joinNodes
  conditions := steps.flatMap conditionNodes
  groups := steps.flatMap groupNames
  having := steps.flatMap havingNodes
  ordering := (sinceCleared steps).flatMap orderingItems
  limit := (steps.filterMap limitGiven).getLast?
  offset := (steps.filterMap offsetGiven).getLast?
  distinct := steps.any makesDistinct

/-! The nodes of a clause -/

/-- Entries that come together are wrapped into one node; without entries there is none. -/
def wrapped {Entry : Type} (list : List Entry → Expr) (entries : List Entry) : List Expr :=
  if entries.isEmpty then [] else [list entries]

@[simp] def columnNodes : Step → List Expr
  | .select names => wrapped .columns names
  | .column column => [column]
  | _ => []

@[simp] def orderingNodes : Step → List Expr
  | .orderBy terms => wrapped .orderBy terms
  | .ordering node => [node]
  | _ => []

/-- All that a step does: it adds to the clauses that it contributes to, replaces the single values
that it gives, and leaves the rest alone. -/
theorem apply_eq (select : Select) (step : Step) :
    select.apply step =
      { columns := select.columns ++ columnNodes step
        source := (sourceGiven step).or select.source
        joins := select.joins ++ joinNodes step
        conditions := select.conditions ++ conditionNodes step
        groups := select.groups ++ groupNames step
        having := select.having ++ havingNodes step
        ordering := (if clearsOrdering step then [] else select.ordering) ++ orderingNodes step
        limit := (limitGiven step).or select.limit
        offset := (offsetGiven step).or select.offset
        distinct := select.distinct || makesDistinct step } := by
  cases step with
  | select names => cases names <;> simp [apply, selectNames, wrapped]
  | orderBy terms => cases terms <;> simp [apply, Select.orderBy, addOrdering, wrapped]
  | _ => simp [apply, addColumn, makeDistinct, readFrom, addJoin, addCondition, addConditions,
      groupBy, addHaving, addOrdering, clearOrdering, setLimit, setOffset]

private theorem last_concat {α : Type} (given : Step → Option α) (steps : List Step) (step : Step) :
    ((steps ++ [step]).filterMap given).getLast? =
      (given step).or (steps.filterMap given).getLast? := by
  rw [List.filterMap_append, List.getLast?_append]
  cases found : given step <;> simp [found]

private theorem ordering_concat (steps : List Step) (step : Step) :
    (sinceCleared (steps ++ [step])).flatMap orderingNodes =
      (if clearsOrdering step then [] else (sinceCleared steps).flatMap orderingNodes)
        ++ orderingNodes step := by
  rw [sinceCleared, List.rtakeWhile_concat, ← sinceCleared]
  cases step <;> simp

/-- Every clause holds what the steps gave it, one piece after the other. -/
theorem applyAll_eq (steps : List Step) :
    Select.empty.applyAll steps =
      { columns := steps.flatMap columnNodes
        source := (steps.filterMap sourceGiven).getLast?
        joins := steps.flatMap joinNodes
        conditions := steps.flatMap conditionNodes
        groups := steps.flatMap groupNames
        having := steps.flatMap havingNodes
        ordering := (sinceCleared steps).flatMap orderingNodes
        limit := (steps.filterMap limitGiven).getLast?
        offset := (steps.filterMap offsetGiven).getLast?
        distinct := steps.any makesDistinct } := by
  induction steps using List.reverseRecOn with
  | nil => rfl
  | append_singleton steps step before =>
    rw [applyAll, List.foldl_concat, ← applyAll, before, apply_eq]
    simp only [List.flatMap_append, List.flatMap_singleton, List.any_append, List.any_cons,
      List.any_nil, Bool.or_false, last_concat, ordering_concat]

/-! Entries one by one -/

/-- An entry as a node of its own. -/
def Item.toNode {Entry : Type} (list : List Entry → Expr) : Item Entry → Expr
  | .entry single => list [single]
  | .node whole => whole

/-- A node that lists entries prints them with a comma between those that print something. -/
def Lists {Entry : Type} (list : List Entry → Expr) : Prop :=
  ∃ text : Entry → String, ∀ entries, (list entries).render =
    .ok (Fragment.join ", " (entries.map fun entry => Fragment.raw (text entry)))

theorem lists_columns : Lists Expr.columns := ⟨id, fun _ => rfl⟩

theorem lists_orderBy : Lists Expr.orderBy := ⟨SortTerm.text, fun _ => rfl⟩

/-- A node that lists entries prints what they print one by one. -/
theorem renderJoined_entries {Entry : Type} {list : List Entry → Expr} (lists : Lists list)
    (entries : List Entry) :
    renderJoined ", " (entries.map fun entry => list [entry]) =
      renderJoined ", " [list entries] := by
  obtain ⟨text, renders⟩ := lists
  have apart : renderJoined ", " (entries.map fun entry => list [entry]) =
      .ok (Fragment.join ", " (entries.map fun entry => Fragment.raw (text entry))) := by
    rw [renderJoined_eq_ok_iff]
    refine ⟨(entries.map fun entry => [Fragment.raw (text entry)]).map (Fragment.join ", "), ?_, ?_⟩
    · rw [List.map_map, List.forall₂_map_left_iff, List.forall₂_map_right_iff, List.forall₂_same]
      exact fun entry _ => renders [entry]
    · rw [Fragment.join_flatten, ← List.flatMap_def, ← List.map_eq_flatMap]
  rw [apart, eq_comm, renderJoined_eq_ok_iff]
  exact ⟨_, .cons (renders entries) .nil, Fragment.join_join ..⟩

/-- Entries that come together print what they print one by one, also if there are none. -/
theorem renderJoined_wrapped {Entry : Type} {list : List Entry → Expr} (lists : Lists list)
    (entries : List Entry) :
    renderJoined ", " (wrapped list entries) =
      renderJoined ", " ((entries.map Item.entry).map (Item.toNode list)) := by
  rw [List.map_map, wrapped]
  split
  · rename_i none
    rw [List.isEmpty_iff.mp none]
    rfl
  · exact (renderJoined_entries lists entries).symm

theorem renderJoined_columns (step : Step) :
    renderJoined ", " (columnNodes step) =
      renderJoined ", " ((columnItems step).map (Item.toNode .columns)) := by
  cases step with
  | select names => exact renderJoined_wrapped lists_columns names
  | _ => rfl

theorem renderJoined_ordering (step : Step) :
    renderJoined ", " (orderingNodes step) =
      renderJoined ", " ((orderingItems step).map (Item.toNode .orderBy)) := by
  cases step with
  | orderBy terms => exact renderJoined_wrapped lists_orderBy terms
  | _ => rfl

/-- The column list and the ordering print their items one by one, in whatever portions they
came. -/
theorem renderJoined_items {steps : List Step} {Entry : Type} {nodes : Step → List Expr}
    {items : Step → List (Item Entry)} {list : List Entry → Expr}
    (each : ∀ step, renderJoined ", " (nodes step) =
      renderJoined ", " ((items step).map (Item.toNode list))) :
    renderJoined ", " (steps.flatMap nodes) =
      renderJoined ", " ((steps.flatMap items).map (Item.toNode list)) := by
  rw [List.map_flatMap]
  exact renderJoined_flatMap_congr each steps

/-- Two sequences of changes that give every clause the same items in the same order, the same last
source, limit and offset, and both or neither make the statement distinct, lead to the same text and
parameters or to the same fault in every dialect. -/
theorem same_contributions_same_statement (first second : List Step) (dialect : Dialect)
    (same : contributions first = contributions second) :
    (Select.empty.applyAll first).build dialect = (Select.empty.applyAll second).build dialect := by
  simp only [contributions, Contributions.mk.injEq] at same
  obtain ⟨columns, source, joins, conditions, groups, having, ordering, limit, offset, distinct⟩ :=
    same
  rw [applyAll_eq, applyAll_eq]
  refine PrintsLike.build_eq ?_ dialect
  exact {
    columns := by
      rw [renderJoined_items renderJoined_columns, columns, renderJoined_items renderJoined_columns]
    source
    joins := by rw [joins]
    conditions := by rw [conditions]
    groups
    having := by rw [having]
    ordering := by
      rw [renderJoined_items renderJoined_ordering, ordering,
        renderJoined_items renderJoined_ordering]
    limit
    offset
    distinct }

/-- Changes made clause by clause, with whole lists. -/
def gatheredCalls : List Step :=
  [.select ["id", "", "title"], .column (.template "? AS tenant" [.text "t"]), .distinct,
    .source "articles", .join (.raw "JOIN tags ON tags.id = articles.tag"),
    .conditions [.compare "age" .gt (.integer 1), .raw "", .inList "id" [.integer 2] false],
    .groupBy ["id", "title"], .having (.isNull "total" true),
    .orderBy [⟨"id", .desc⟩, ⟨"title", .asc⟩], .limit 5, .offset 10]

/-- The same contributions in small portions and in another order, among others that are replaced,
cleared or empty. -/
def scatteredCalls : List Step :=
  [.limit 7, .groupBy ["id"], .source "drafts", .orderBy [⟨"rank", .asc⟩], .clearOrdering,
    .having (.isNull "total" true), .orderBy [⟨"id", .desc⟩], .select ["id"],
    .condition (.compare "age" .gt (.integer 1)), .select [], .distinct, .offset 10,
    .conditions [.raw ""], .select ["", "title"], .groupBy [], .orderBy [⟨"title", .asc⟩],
    .column (.template "? AS tenant" [.text "t"]), .distinct, .groupBy ["title"], .limit 5,
    .condition (.inList "id" [.integer 2] false), .orderBy [], .source "articles",
    .join (.raw "JOIN tags ON tags.id = articles.tag")]

theorem scattered_calls_same_statement :
    contributions gatheredCalls = contributions scatteredCalls ∧
      ∃ statement, statement.params = [.text "t", .integer 1, .integer 2] ∧
        (Select.empty.applyAll gatheredCalls).build .postgresql = .ok statement ∧
        (Select.empty.applyAll scatteredCalls).build .postgresql = .ok statement := by
  have same : contributions gatheredCalls = contributions scatteredCalls := rfl
  have built : (Select.empty.applyAll gatheredCalls).build .postgresql = .ok _ := rfl
  have alike := same_contributions_same_statement gatheredCalls scatteredCalls .postgresql same
  exact ⟨same, _, rfl, built, alike.symm.trans built⟩

end QueryGate.ClauseContributions
