import QueryGate.Proofs.StatementText

/-! Nodes that print nothing are invisible. Separators, parentheses and the check for columns count
the members that print, so one more blank node changes neither a statement nor its fault, however
deep it is put. -/
namespace QueryGate.BlankNodes
open QueryGate.Expr Outcomes

/-! Where a node can be put -/

/-- The second node is the first with one more member in one of its groups, at any depth under
negations and groups. The group has a member already. -/
inductive Grown (added : Expr) : Expr → Expr → Prop where
  | member {connective : Connective} (before after : List Expr) (peopled : before ++ after ≠ []) :
      Grown added (.group connective (before ++ after))
        (.group connective (before ++ added :: after))
  | group {connective : Connective} (before after : List Expr) {node larger : Expr}
      (within : Grown added node larger) :
      Grown added (.group connective (before ++ node :: after))
        (.group connective (before ++ larger :: after))
  | not {inner larger : Expr} (within : Grown added inner larger) :
      Grown added (.not inner) (.not larger)

/-- One more node in a list of nodes, or in one of the groups below it. -/
inductive ListGrown (added : Expr) : List Expr → List Expr → Prop where
  | node (before after : List Expr) : ListGrown added (before ++ after) (before ++ added :: after)
  | below (before after : List Expr) {node larger : Expr} (within : Grown added node larger) :
      ListGrown added (before ++ node :: after) (before ++ larger :: after)

/-- One more node in one of the clauses of a statement. -/
inductive StatementGrown (added : Expr) (select : Select) : Select → Prop where
  | columns {nodes : List Expr} (grown : ListGrown added select.columns nodes) :
      StatementGrown added select { select with columns := nodes }
  | joins {nodes : List Expr} (grown : ListGrown added select.joins nodes) :
      StatementGrown added select { select with joins := nodes }
  | conditions {nodes : List Expr} (grown : ListGrown added select.conditions nodes) :
      StatementGrown added select { select with conditions := nodes }
  | having {nodes : List Expr} (grown : ListGrown added select.having nodes) :
      StatementGrown added select { select with having := nodes }
  | ordering {nodes : List Expr} (grown : ListGrown added select.ordering nodes) :
      StatementGrown added select { select with ordering := nodes }

/-! What a list of nodes shows -/

/-- The fragments of nodes that print something, or the error of the first node that has one. -/
def shown (nodes : List Expr) : Except RenderError (List Fragment) :=
  (renderEach nodes).map (List.filter fun fragment => !fragment.isEmpty)

theorem renderJoined_eq_shown (separator : String) (nodes : List Expr) :
    renderJoined separator nodes = (shown nodes).map (Fragment.join separator) := by
  rw [shown, renderJoined]
  cases renderEach nodes with
  | error error => rfl
  | ok fragments => exact congrArg Except.ok (Fragment.join_printing separator fragments).symm

theorem connect_printing (connective : Connective) (members : List Fragment) :
    connect connective (members.filter fun member => !member.isEmpty) =
      connect connective members := by
  simp only [connect, List.filter_filter, Bool.and_self]

theorem render_group_eq_shown (connective : Connective) {children : List Expr}
    (peopled : children ≠ []) :
    render (.group connective children) = (shown children).map (connect connective) := by
  rw [render, if_neg (by simpa using peopled), shown]
  cases renderEach children with
  | error error => rfl
  | ok fragments => exact congrArg Except.ok (connect_printing connective fragments).symm

/-- A blank node is not shown. -/
theorem shown_insert {blank : Expr} (invisible : blank.RendersBlank) (before after : List Expr) :
    shown (before ++ blank :: after) = shown (before ++ after) := by
  obtain ⟨fragment, rendered, nothing⟩ := invisible
  simp only [shown, renderEach_append, renderEach, rendered, bind_map, map_bind]
  refine bind_congr fun fragments => bind_congr fun others => ?_
  exact congrArg Except.ok (by simp [nothing])

/-- Nodes that render alike can stand for each other in a list. -/
theorem shown_replace {node other : Expr} (same : render other = render node)
    (before after : List Expr) :
    shown (before ++ other :: after) = shown (before ++ node :: after) := by
  simp only [shown, renderEach_append, renderEach, same]

/-! Growing by a blank node -/

/-- A blank member of a group does not show in any node around it. -/
theorem render_grown {blank node larger : Expr} (invisible : blank.RendersBlank)
    (grown : Grown blank node larger) : render larger = render node := by
  induction grown with
  | member _ _ peopled =>
    rw [render_group_eq_shown _ (by simp), render_group_eq_shown _ peopled, shown_insert invisible]
  | group _ _ _ same =>
    rw [render_group_eq_shown _ (by simp), render_group_eq_shown _ (by simp), shown_replace same]
  | not _ same => rw [render, render, same]

theorem renderJoined_grown {blank : Expr} {nodes larger : List Expr}
    (invisible : blank.RendersBlank) (grown : ListGrown blank nodes larger) (separator : String) :
    renderJoined separator larger = renderJoined separator nodes := by
  rw [renderJoined_eq_shown, renderJoined_eq_shown]
  cases grown with
  | node => rw [shown_insert invisible]
  | below _ _ within => rw [shown_replace (render_grown invisible within)]

theorem prints_like_grown {blank : Expr} {select larger : Select} (invisible : blank.RendersBlank)
    (grown : StatementGrown blank select larger) : larger.PrintsLike select := by
  have same := Select.PrintsLike.refl select
  cases grown with
  | columns grown => exact { same with columns := renderJoined_grown invisible grown _ }
  | joins grown => exact { same with joins := renderJoined_grown invisible grown _ }
  | conditions grown => exact { same with conditions := renderJoined_grown invisible grown _ }
  | having grown => exact { same with having := renderJoined_grown invisible grown _ }
  | ordering grown => exact { same with ordering := renderJoined_grown invisible grown _ }

/-! Blank fragments -/

theorem text_eq_empty_of_isEmpty {fragment : Fragment} (blank : fragment.isEmpty = true)
    (dialect : Dialect) : fragment.text dialect = "" := by
  rw [Fragment.text_eq_textFrom, Fragment.textFrom_eq_empty blank]

/-- A fragment prints nothing in one dialect exactly when it does in every other. -/
theorem isEmpty_iff_text (fragment : Fragment) (dialect : Dialect) :
    fragment.isEmpty = true ↔ fragment.text dialect = "" := by
  constructor
  · exact fun blank => text_eq_empty_of_isEmpty blank dialect
  · intro empty
    cases prints : fragment.isEmpty with
    | true => rfl
    | false =>
      rw [Fragment.text_eq_textFrom] at empty
      exact absurd empty (Fragment.textFrom_ne_empty prints dialect 1)

/-- A fragment is empty exactly when its text is, in each dialect, and then it has no parameters. A
node that renders to such a fragment can be put at any position into a clause, or into a group that
has a member, at any depth: the statement is built to the same text and parameters, or has the same
fault. -/
theorem blank_nodes_invisible :
    (∀ (fragment : Fragment) (dialect : Dialect),
      fragment.isEmpty = true ↔ fragment.text dialect = "") ∧
    (∀ fragment : Fragment, fragment.isEmpty = true → fragment.params = []) ∧
    ∀ (blank : Expr) (select larger : Select) (dialect : Dialect), blank.RendersBlank →
      StatementGrown blank select larger → larger.build dialect = select.build dialect := by
  refine ⟨isEmpty_iff_text, fun _ => Fragment.params_eq_nil_of_isEmpty, ?_⟩
  intro blank select larger dialect invisible grown
  exact (prints_like_grown invisible grown).build_eq dialect

/-- A negated group of blank members. -/
def hiddenGroup : Expr := .not (.group .or [.raw "", .columns ["", ""]])

/-- The members of a negated group around a group of one. -/
def nested (inner : List Expr) : Expr :=
  .not (.group .and [.group .or inner, .isNull "deleted" false])

/-- A statement whose condition has a group of one member deep inside. -/
def pending : Select :=
  { columns := [.columns ["id"]], source := some "articles"
    conditions := [.raw "", nested [.compare "age" .gt (.integer 1)]] }

theorem hidden_group_keeps_statement :
    hiddenGroup.RendersBlank ∧
      ∃ statement, pending.build .postgresql = .ok statement ∧
        ({ pending with
            conditions := [.raw "", nested [.compare "age" .gt (.integer 1), hiddenGroup]] } :
          Select).build .postgresql = .ok statement := by
  have invisible : hiddenGroup.RendersBlank := ⟨_, rfl, rfl⟩
  have grown : ListGrown hiddenGroup pending.conditions
      [.raw "", nested [.compare "age" .gt (.integer 1), hiddenGroup]] := by
    refine .below [.raw ""] [] (.not (.group [] _ ?_))
    exact .member [.compare "age" .gt (.integer 1)] [] (by simp)
  have built : pending.build .postgresql = .ok _ := rfl
  have same := blank_nodes_invisible.2.2 hiddenGroup pending _ .postgresql invisible
    (.conditions grown)
  exact ⟨invisible, _, built, same.trans built⟩

end QueryGate.BlankNodes
