import QueryGate.Proofs.ArgumentPreservation

/-! Which nodes and statements fail to render, and with which error. Only three kinds of node are
malformed in themselves; everything else fails where it contains one of them, also where it would
not print, and the first one met from left to right decides the error. -/
namespace QueryGate.MalformedNodes
open QueryGate.Expr ArgumentPreservation Outcomes

/-! Malformed nodes -/

/-- A node that is malformed whatever stands around it, and its error: a set of no values, a group
of no members, or a template whose markers and values differ in number. -/
inductive Malformed : Expr → RenderError → Prop where
  | noValues (field : String) (negated : Bool) :
      Malformed (.inList field [] negated) (.emptyValueSet field negated)
  | noMembers (connective : Connective) :
      Malformed (.group connective []) (.emptyGroup connective)
  | unmatched {text : String} {values : List Value}
      (differ : text.toList.count '?' ≠ values.length) :
      Malformed (.template text values) (.markerMismatch (text.toList.count '?') values.length)

/-- What is said of a malformed node. -/
def complaint : Expr → String
  | .inList field _ true => "'NotIn' condition requires at least one value for field " ++ field
  | .inList field _ false => "'In' condition requires at least one value for field " ++ field
  | .group .and _ => "'And' requires at least one condition"
  | .group .or _ => "'Or' requires at least one condition"
  | .template text values =>
    "raw fragment has " ++ Text.natural (text.toList.count '?') ++ " placeholder(s) but "
      ++ Text.natural values.length ++ " argument(s)"
  | _ => ""

/-- The error of a malformed node tells its operator, with the field of a set, or its two counts. -/
theorem message_of_malformed {part : Expr} {error : RenderError}
    (malformed : Malformed part error) : error.message = complaint part := by
  cases malformed with
  | noValues field negated => cases negated <;> rfl
  | noMembers connective => cases connective <;> rfl
  | unmatched differ => rfl

/-! Walking through a node -/

mutual

/-- A node and all that lies in it, from left to right and from the outside in. -/
def walk : Expr → List Expr
  | .not inner => .not inner :: walk inner
  | .group connective children => .group connective children :: walkEach children
  | node => [node]

/-- Nodes and all that lies in them, in order. -/
def walkEach : List Expr → List Expr
  | [] => []
  | node :: rest => walk node ++ walkEach rest

end

theorem walkEach_eq_flatMap (nodes : List Expr) : walkEach nodes = nodes.flatMap walk := by
  induction nodes with
  | nil => rfl
  | cons node rest later => rw [walkEach, later, List.flatMap_cons]

/-- The walk meets exactly what lies in the node. -/
theorem mem_walk_iff {part node : Expr} : part ∈ walk node ↔ Inside part node := by
  constructor
  · intro met
    induction node using Expr.induct with
    | not inner within =>
      rcases List.mem_cons.mp met with rfl | below
      · exact .self
      · exact .not (within below)
    | group connective children within =>
      rw [walk, walkEach_eq_flatMap] at met
      rcases List.mem_cons.mp met with rfl | below
      · exact .self
      · obtain ⟨child, member, below⟩ := List.mem_flatMap.mp below
        exact .group member (within child member below)
    | _ => exact List.mem_singleton.mp met ▸ .self
  · intro inside
    induction inside with
    | self => cases part <;> simp [walk]
    | not _ below => exact List.mem_cons_of_mem _ below
    | group member _ below =>
      rw [walk, walkEach_eq_flatMap]
      exact List.mem_cons_of_mem _ (List.mem_flatMap.mpr ⟨_, member, below⟩)

/-! Nodes -/

/-- A node that is not malformed and contains no other renders. -/
private theorem sound_decided {node : Expr} (sound : ∀ error, ¬ Malformed node error)
    (fragment : Fragment) : DecidedBy Malformed [node] (.ok fragment) :=
  .passed sound (.ok fragment)

/-- A malformed node is the first thing that the walk through it meets. -/
private theorem malformed_decided {node : Expr} {error : RenderError} {rest : List Expr}
    (malformed : Malformed node error) (only : ∀ other, Malformed node other → error = other) :
    DecidedBy Malformed (node :: rest) (.error error : Except RenderError Fragment) :=
  .failed fun other => ⟨only other, fun same => same ▸ malformed⟩

/-- A node renders unless the walk through it meets a malformed one; the first of these gives the
error. -/
theorem render_decided (node : Expr) : DecidedBy Malformed (walk node) node.render := by
  induction node using Expr.induct with
  | inList field values negated =>
    cases values with
    | nil => exact malformed_decided (.noValues field negated) (by rintro _ ⟨⟩; rfl)
    | cons value rest => exact sound_decided (by rintro _ ⟨⟩) _
  | not inner within => exact .passed (by rintro _ ⟨⟩) (within.map negate)
  | group connective children within =>
    rw [walk, walkEach_eq_flatMap, render, renderEach_eq_mapM]
    cases children with
    | nil => exact malformed_decided (.noMembers connective) (by rintro _ ⟨⟩; rfl)
    | cons child rest =>
      exact .passed (by rintro _ ⟨⟩) ((DecidedBy.mapM_mem _ within).map (connect connective))
  | template text values =>
    change DecidedBy Malformed [.template text values] (Fragment.template text values)
    rw [Fragment.template_eq]
    by_cases fits : text.toList.count Fragment.marker = values.length
    · rw [if_pos fits]
      refine sound_decided (fun _ malformed => ?_) _
      cases malformed with
      | unmatched differ => exact differ fits
    · rw [if_neg fits]
      exact malformed_decided (.unmatched fits) (by rintro _ ⟨⟩; rfl)
  | compare => exact sound_decided (by rintro _ ⟨⟩) _
  | like => exact sound_decided (by rintro _ ⟨⟩) _
  | isNull => exact sound_decided (by rintro _ ⟨⟩) _
  | raw => exact sound_decided (by rintro _ ⟨⟩) _
  | columns => exact sound_decided (by rintro _ ⟨⟩) _
  | orderBy => exact sound_decided (by rintro _ ⟨⟩) _

/-! Statements -/

/-- The checks on a statement: each of its nodes, and whether some column prints something. -/
inductive Check where
  | node (node : Expr)
  | columns

/-- A node that does not render, or columns of which none prints anything. -/
inductive Fails (select : Select) : Check → RenderError → Prop where
  | node {node : Expr} {error : RenderError} (fault : node.render = .error error) :
      Fails select (.node node) error
  | columns (blank : ∀ column ∈ select.columns, column.RendersBlank) :
      Fails select .columns .missingColumns

/-- The checks in their order. -/
def checks (select : Select) : List Check :=
  select.columns.map .node ++ .columns :: (select.joins.map .node ++ (select.conditions.map .node
    ++ (select.having.map .node ++ select.ordering.map .node)))

variable {select : Select}

theorem renderJoined_decided (separator : String) (nodes : List Expr) :
    DecidedBy (Fails select) (nodes.map .node) (renderJoined separator nodes) := by
  have one (node : Expr) : DecidedBy (Fails select) [.node node] node.render := by
    refine .single fun error => ⟨.node, ?_⟩
    rintro ⟨fault⟩
    exact fault
  rw [renderJoined, renderEach_eq_mapM, List.map_eq_flatMap]
  exact (DecidedBy.mapM one nodes).map (Fragment.join separator)

/-- Joined nodes print nothing exactly when each of them renders to nothing. -/
theorem isEmpty_joined_iff {separator : String} {nodes : List Expr} {fragment : Fragment}
    (rendered : renderJoined separator nodes = .ok fragment) :
    fragment.isEmpty = true ↔ ∀ node ∈ nodes, node.RendersBlank := by
  obtain ⟨fragments, each, rfl⟩ := renderJoined_eq_ok_iff.mp rendered
  rw [Fragment.isEmpty_join, List.all_eq_true]
  clear rendered
  induction each with
  | nil => simp
  | cons head _ tail =>
    rw [List.forall_mem_cons, List.forall_mem_cons, tail]
    refine and_congr_left' ⟨fun blank => ⟨_, head, blank⟩, ?_⟩
    rintro ⟨other, same, blank⟩
    cases head.symm.trans same
    exact blank

theorem build_decided (select : Select) (dialect : Dialect) :
    DecidedBy (Fails select) (checks select) (select.build dialect) := by
  refine .map ?_ _
  rw [Select.render_eq, checks]
  refine (renderJoined_decided ", " select.columns).bind fun columns rendered => ?_
  have missing := isEmpty_joined_iff rendered
  split
  · rename_i blank
    refine .failed fun other => ⟨?_, fun same => same ▸ .columns (missing.mp blank)⟩
    rintro ⟨⟩
    rfl
  · rename_i visible
    refine .passed (fun _ fails => ?_) ?_
    · cases fails with
      | columns blank => exact visible (missing.mpr blank)
    refine (renderJoined_decided " " select.joins).bind fun joins _ => ?_
    refine (renderJoined_decided " AND " select.conditions).bind fun conditions _ => ?_
    refine (renderJoined_decided " AND " select.having).bind fun having _ => ?_
    exact (renderJoined_decided ", " select.ordering).map _

private theorem node_mem_checks {node : Expr} :
    .node node ∈ checks select ↔ node ∈ nodes select := by
  simp [checks, nodes]

private theorem exists_failing_iff :
    (∃ check ∈ checks select, ∃ error, Fails select check error) ↔
      (∃ node ∈ nodes select, ∃ error, node.render = .error error) ∨
        ∀ column ∈ select.columns, column.RendersBlank := by
  constructor
  · rintro ⟨check, member, error, fails⟩
    cases fails with
    | node fault => exact .inl ⟨_, node_mem_checks.mp member, error, fault⟩
    | columns blank => exact .inr blank
  · rintro (⟨node, member, error, fault⟩ | blank)
    · exact ⟨.node node, node_mem_checks.mpr member, error, .node fault⟩
    · exact ⟨.columns, by simp [checks], .missingColumns, .columns blank⟩

/-- A node fails to render exactly when a malformed one lies in it, at any depth, and with the error
of the first of these from left to right, which tells the operator or the counts of that node. A
statement fails to build exactly when one of its nodes fails to render or none of its columns prints
anything, with the first error in the order columns, absence of columns, joins, conditions, HAVING
and ordering. -/
theorem first_malformed_node_decides :
    (∀ node : Expr,
      ((∃ error, node.render = .error error) ↔
        ∃ part, Inside part node ∧ ∃ error, Malformed part error) ∧
      ∀ error, node.render = .error error ↔ FirstFails Malformed (walk node) error) ∧
    (∀ part error, Malformed part error → error.message = complaint part) ∧
    ∀ (select : Select) (dialect : Dialect),
      ((∃ error, select.build dialect = .error error) ↔
        (∃ node ∈ nodes select, ∃ error, node.render = .error error) ∨
          ∀ column ∈ select.columns, column.RendersBlank) ∧
      ∀ error, select.build dialect = .error error ↔
        FirstFails (Fails select) (checks select) error := by
  refine ⟨fun node => ⟨?_, render_decided node⟩, fun _ _ => message_of_malformed,
    fun select dialect => ⟨?_, build_decided select dialect⟩⟩
  · rw [exists_congr (render_decided node), exists_firstFails_iff]
    simp only [mem_walk_iff]
  · rw [exists_congr (build_decided select dialect), exists_firstFails_iff]
    exact exists_failing_iff

/-- A group without members below a group whose only other member prints nothing. -/
def hollow : Expr := .group .or [.raw "", .not (.group .and []), .inList "id" [] true]

/-- A statement with a fault in its joins and others in its conditions. -/
def tangled : Select :=
  { columns := [.columns ["id"]]
    joins := [.template "JOIN tags ON tags.id = ? OR tags.id = ?" [.integer 1]]
    conditions := [hollow, .inList "id" [] false] }

theorem tangled_reports_first :
    hollow.render = .error (.emptyGroup .and) ∧
      (RenderError.emptyGroup .and).message = complaint (.group .and []) ∧
      tangled.build .postgresql = .error (.markerMismatch 2 1) := by
  obtain ⟨nodes, messages, statements⟩ := first_malformed_node_decides
  have empty : Malformed (.group .and []) (.emptyGroup .and) := .noMembers .and
  refine ⟨((nodes hollow).2 _).mpr ?_, messages _ _ empty, ((statements tangled _).2 _).mpr ?_⟩
  · exact .later (by rintro _ ⟨⟩) (.later (by rintro _ ⟨⟩) (.later (by rintro _ ⟨⟩) (.here empty)))
  · refine .later ?_ (.later ?_ (.here (.node rfl)))
    · intro error fails
      cases fails with
      | node fault => cases fault
    · intro error fails
      cases fails with
      | columns blank =>
        obtain ⟨fragment, rendered, nothing⟩ := blank _ List.mem_cons_self
        cases rendered
        cases nothing

end QueryGate.MalformedNodes
