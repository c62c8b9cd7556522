import QueryGate.Proofs.StatementProofs

/-! No argument is lost, repeated or moved. Rendering leaves out what prints nothing, drops the
parentheses of small groups and cuts templates into pieces; the values that come out are still
those that a plain walk through the nodes of the statement finds. -/
namespace QueryGate.ArgumentPreservation
open Outcomes

/-- All nodes of a statement, clause after clause as they are rendered. -/
def nodes (select : Select) : List Expr :=
  select.columns ++ select.joins ++ select.conditions ++ select.having ++ select.ordering

/-- A node lies in another one, which it is or which negates or groups what it lies in. -/
inductive Inside (part : Expr) : Expr → Prop where
  | self : Inside part part
  | not {inner : Expr} (within : Inside part inner) : Inside part (.not inner)
  | group {connective : Connective} {children : List Expr} {child : Expr}
      (member : child ∈ children) (within : Inside part child) :
      Inside part (.group connective children)

theorem values_eq_walk (select : Select) : select.values = (nodes select).flatMap Expr.values := by
  simp only [Select.values, Select.valuesThroughConditions, Select.valuesAfterConditions,
    Expr.valuesEach_eq_flatMap, nodes, List.flatMap_append, List.append_assoc]

/-- A sequence that succeeds has succeeded at every member. -/
private theorem member_renders {children : List Expr} {fragments : List Fragment}
    (each : List.Forall₂ (fun node fragment => Expr.render node = .ok fragment) children fragments)
    {child : Expr} (member : child ∈ children) : ∃ fragment, child.render = .ok fragment := by
  induction each with
  | nil => cases member
  | @cons node fragment rest others rendered _ later =>
    rcases List.mem_cons.mp member with rfl | inRest
    · exact ⟨fragment, rendered⟩
    · exact later inRest

/-- Whatever lies in a node that renders is rendered with it, also where it prints nothing. -/
theorem part_renders {part node : Expr} (inside : Inside part node) :
    ∀ {fragment : Fragment}, node.render = .ok fragment → ∃ piece, part.render = .ok piece := by
  induction inside with
  | self => exact fun rendered => ⟨_, rendered⟩
  | not _ later =>
    intro fragment rendered
    rw [Expr.render, map_eq_ok_iff] at rendered
    obtain ⟨body, rendered, -⟩ := rendered
    exact later rendered
  | @group connective children child member _ later =>
    intro fragment rendered
    rw [Expr.render] at rendered
    split at rendered
    · cases rendered
    · obtain ⟨fragments, each, -⟩ := map_eq_ok_iff.mp rendered
      obtain ⟨body, rendered⟩ := member_renders (Expr.renderEach_eq_ok_iff.mp each) member
      exact later rendered

/-- Every node of a statement that renders is rendered, whatever its clause. -/
theorem node_renders {select : Select} {fragment : Fragment}
    (rendered : select.render = .ok fragment) {node : Expr} (member : node ∈ nodes select) :
    ∃ piece, node.render = .ok piece := by
  obtain ⟨clauses, ready, -⟩ := Select.render_eq_ok_iff.mp rendered
  have clause {separator : String} {listed : List Expr} {body : Fragment}
      (joined : Expr.renderJoined separator listed = .ok body) (inside : node ∈ listed) :
      ∃ piece, node.render = .ok piece := by
    obtain ⟨fragments, each, -⟩ := Expr.renderJoined_eq_ok_iff.mp joined
    exact member_renders each inside
  simp only [nodes, List.mem_append] at member
  rcases member with (((column | join) | condition) | having) | ordering
  · exact clause ready.columns column
  · exact clause ready.joins join
  · exact clause ready.conditions condition
  · exact clause ready.having having
  · exact clause ready.ordering ordering

/-- Whenever a statement is built, its parameters are the values of its nodes in order, each as often
as a node holds it. At any depth a part that prints nothing holds no value, so leaving it out
loses none. -/
theorem parameters_are_held_values {select : Select} {dialect : Dialect} {statement : Statement}
    (built : select.build dialect = .ok statement) :
    statement.params = (nodes select).flatMap Expr.values ∧
      ∀ node ∈ nodes select, ∀ part, Inside part node →
        ∃ piece, part.render = .ok piece ∧ piece.params = part.values ∧
          (piece.isEmpty = true → part.values = []) := by
  refine ⟨(Select.params_of_build built).trans (values_eq_walk select), ?_⟩
  intro node member part inside
  -- A part need not show up in the text to have been rendered: every node is, with all it holds.
  obtain ⟨fragment, rendered, -⟩ := map_eq_ok_iff.mp built
  obtain ⟨whole, wholeRendered⟩ := node_renders rendered member
  obtain ⟨piece, pieceRendered⟩ := part_renders inside wholeRendered
  have held : piece.params = part.values := Expr.params_of_render pieceRendered
  refine ⟨piece, pieceRendered, held, fun blank => ?_⟩
  rw [← held, Fragment.params_eq_nil_of_isEmpty blank]

/-- Calls out of clause order, with blank members, a collapsing group and a cleared ordering. -/
def shuffledCalls : List Select.Step :=
  [.ordering (.template "rank(?)" [.integer 9]), .clearOrdering,
    .orderBy [⟨"id", .desc⟩], .ordering (.template "near(?, ?)" [.text "a", .null]),
    .condition (.group .or [.raw "", .not (.group .and [.raw "", .compare "age" .gt (.integer 1)])]),
    .having (.inList "total" [.integer 2, .integer 3] true), .limit 5,
    .conditions [.not (.raw ""), .like "title" (.text "x%")],
    .join (.template "JOIN tags ON tags.id = ?" [.integer 4]),
    .column (.template "? AS tenant" [.text "t"]), .source "articles"]

theorem shuffled_calls_keep_values :
    ∃ statement, (Select.empty.applyAll shuffledCalls).build .postgresql = .ok statement ∧
      statement.params = [.text "t", .integer 4, .integer 1, .text "x%", .integer 2, .integer 3,
        .text "a", .null] ∧
      ∃ piece, (Expr.not (.raw "")).render = .ok piece ∧ piece.params = [] := by
  have built : (Select.empty.applyAll shuffledCalls).build .postgresql = .ok _ := rfl
  obtain ⟨params, parts⟩ := parameters_are_held_values built
  have listed : Expr.not (.raw "") ∈ nodes (Select.empty.applyAll shuffledCalls) := by
    simp [nodes, shuffledCalls, Select.applyAll, Select.apply, Select.addConditions,
      Select.addCondition, Select.empty, Select.clearOrdering, Select.addOrdering, Select.orderBy,
      Select.addHaving, Select.setLimit, Select.addJoin, Select.addColumn, Select.readFrom]
  obtain ⟨piece, rendered, held, -⟩ := parts _ listed _ .self
  exact ⟨_, built, params, piece, rendered, held⟩

end QueryGate.ArgumentPreservation
