import QueryGate.Proofs.FragmentProofs
import QueryGate.Proofs.Outcomes
import QueryGate.Expr.Render

/-! Nodes against what they render to. Success is opened once, at each kind of node; from it follow
the values that a rendering holds, in the order in which the nodes hold them, and that replacing
the values changes nothing else. -/
namespace QueryGate.Expr
open Outcomes

/-- Induction over nodes, with the hypothesis at every member of a group. -/
@[elab_as_elim]
theorem induct {motive : Expr → Prop}
    (compare : ∀ field op value, motive (.compare field op value))
    (inList : ∀ field values negated, motive (.inList field values negated))
    (like : ∀ field pattern, motive (.like field pattern))
    (isNull : ∀ field negated, motive (.isNull field negated))
    (not : ∀ inner, motive inner → motive (.not inner))
    (group : ∀ connective children, (∀ child ∈ children, motive child) →
      motive (.group connective children))
    (raw : ∀ text, motive (.raw text))
    (template : ∀ text values, motive (.template text values))
    (columns : ∀ names, motive (.columns names))
    (orderBy : ∀ terms, motive (.orderBy terms)) (node : Expr) : motive node :=
  @Expr.rec motive (fun children => ∀ child ∈ children, motive child) compare inList like isNull
    not group raw template columns orderBy (by simp)
    (fun _ _ head tail => List.forall_mem_cons.mpr ⟨head, tail⟩) node

theorem renderEach_eq_mapM (nodes : List Expr) : renderEach nodes = nodes.mapM render := by
  induction nodes with
  | nil => rfl
  | cons node rest later =>
    rw [renderEach, List.mapM_cons, later]
    cases render node with
    | error error => rfl
    | ok fragment => cases rest.mapM render <;> rfl

theorem renderEach_eq_ok_iff {nodes : List Expr} {fragments : List Fragment} :
    renderEach nodes = .ok fragments ↔
      List.Forall₂ (fun node fragment => render node = .ok fragment) nodes fragments := by
  rw [renderEach_eq_mapM, mapM_eq_ok_iff]

theorem renderJoined_eq_ok_iff {separator : String} {nodes : List Expr} {fragment : Fragment} :
    renderJoined separator nodes = .ok fragment ↔
      ∃ fragments, List.Forall₂ (fun node member => render node = .ok member) nodes fragments ∧
        Fragment.join separator fragments = fragment := by
  simp only [renderJoined, map_eq_ok_iff, renderEach_eq_ok_iff]

theorem renderEach_append (first second : List Expr) :
    renderEach (first ++ second) = do
      let fragments ← renderEach first
      let others ← renderEach second
      return fragments ++ others := by
  simp only [renderEach_eq_mapM, List.mapM_append]

/-- Two parts of a list of nodes render one after the other, and are then joined. -/
theorem renderJoined_append (separator : String) (first second : List Expr) :
    renderJoined separator (first ++ second) = do
      let fragment ← renderJoined separator first
      let other ← renderJoined separator second
      return Fragment.join separator [fragment, other] := by
  simp only [renderJoined, renderEach_append, map_bind, bind_map]
  refine bind_congr fun fragments => bind_congr fun others => ?_
  exact congrArg Except.ok (Fragment.join_append separator fragments others)

/-- Lists of nodes put together from pieces render alike if their pieces do. -/
theorem renderJoined_flatMap_congr {separator : String} {α : Type} {first second : α → List Expr}
    (same : ∀ item, renderJoined separator (first item) = renderJoined separator (second item))
    (items : List α) :
    renderJoined separator (items.flatMap first) =
      renderJoined separator (items.flatMap second) := by
  induction items with
  | nil => rfl
  | cons item rest later =>
    simp only [List.flatMap_cons, renderJoined_append, same, later]

/-- The node renders, to nothing that prints. -/
def RendersBlank (node : Expr) : Prop :=
  ∃ fragment, render node = .ok fragment ∧ fragment.isEmpty = true

/-- Induction over the nodes that render, together with what they render to. -/
@[elab_as_elim]
theorem render_induct {motive : Expr → Fragment → Prop}
    (compare : ∀ field op value, motive (.compare field op value)
      (Fragment.raw (field ++ " " ++ op.symbol ++ " ") ++ Fragment.param value))
    (inList : ∀ field values negated, values ≠ [] → motive (.inList field values negated)
      ((Fragment.raw (field ++ if negated then " NOT IN (" else " IN (")
        ++ Fragment.paramList values).push (.raw ")")))
    (like : ∀ field pattern, motive (.like field pattern)
      (Fragment.raw (field ++ " LIKE ") ++ Fragment.param pattern))
    (isNull : ∀ field negated, motive (.isNull field negated)
      (Fragment.raw (field ++ if negated then " IS NOT NULL" else " IS NULL")))
    (not : ∀ inner fragment, motive inner fragment → motive (.not inner) (negate fragment))
    (group : ∀ connective children fragments, children ≠ [] →
      List.Forall₂ motive children fragments →
      motive (.group connective children) (connect connective fragments))
    (raw : ∀ text, motive (.raw text) (Fragment.raw text))
    (template : ∀ text values fragment, Fragment.template text values = .ok fragment →
      motive (.template text values) fragment)
    (columns : ∀ names, motive (.columns names) (Fragment.join ", " (names.map Fragment.raw)))
    (orderBy : ∀ terms, motive (.orderBy terms)
      (Fragment.join ", " (terms.map fun term => Fragment.raw term.text)))
    {node : Expr} {fragment : Fragment} (rendered : render node = .ok fragment) :
    motive node fragment := by
  induction node using induct generalizing fragment with
  | compare field op value => cases rendered; exact compare field op value
  | inList field values negated =>
    simp only [render, renderInList] at rendered
    split at rendered
    · cases rendered
    · rename_i nonempty
      cases rendered
      exact inList field values negated (by simpa using nonempty)
  | like field pattern => cases rendered; exact like field pattern
  | isNull field negated => cases rendered; exact isNull field negated
  | not inner within =>
    rw [render, map_eq_ok_iff] at rendered
    obtain ⟨body, rendered, rfl⟩ := rendered
    exact not inner body (within rendered)
  | group connective children within =>
    rw [render] at rendered
    split at rendered
    · cases rendered
    · rename_i nonempty
      rw [map_eq_ok_iff] at rendered
      obtain ⟨fragments, each, rfl⟩ := rendered
      refine group connective children fragments (by simpa using nonempty) ?_
      have members := (List.forall₂_and_left _ _).mpr ⟨fun child member => member,
        renderEach_eq_ok_iff.mp each⟩
      exact members.imp fun child member both => within child both.1 both.2
  | raw text => cases rendered; exact raw text
  | template text values => exact template text values fragment rendered
  | columns names => cases rendered; exact columns names
  | orderBy terms => cases rendered; exact orderBy terms

/-! The values of a node -/

mutual

/-- The values that a node holds, from left to right and from the outside in. -/
def values : Expr → List Value
  | compare _ _ value => [value]
  | inList _ values _ => values
  | like _ pattern => [pattern]
  | isNull _ _ => []
  | not inner => values inner
  | group _ children => valuesEach children
  | raw _ => []
  | template _ values => values
  | columns _ => []
  | orderBy _ => []

/-- The values of nodes in order. -/
def valuesEach : List Expr → List Value
  | [] => []
  | node :: rest => values node ++ valuesEach rest

end

theorem valuesEach_eq_flatMap (nodes : List Expr) : valuesEach nodes = nodes.flatMap values := by
  induction nodes with
  | nil => rfl
  | cons node rest later => exact congrArg (values node ++ ·) later

theorem valuesEach_append (first second : List Expr) :
    valuesEach (first ++ second) = valuesEach first ++ valuesEach second := by
  simp [valuesEach_eq_flatMap]

/-- Fragments that hold the values of the nodes they come from hold them in the same order. -/
theorem flatMap_params {nodes : List Expr} {fragments : List Fragment}
    (held : List.Forall₂ (fun node fragment => fragment.params = values node) nodes fragments) :
    fragments.flatMap Fragment.params = valuesEach nodes := by
  induction held with
  | nil => rfl
  | cons head _ tail => rw [List.flatMap_cons, head, tail, valuesEach]

theorem params_negate (inner : Fragment) : (negate inner).params = inner.params := by
  rw [negate]
  split
  · rename_i blank
    rw [Fragment.params_empty, Fragment.params_eq_nil_of_isEmpty blank]
  · simp [Fragment.params_append]

private theorem flatMap_params_printing (members : List Fragment) :
    (members.filter fun member => !member.isEmpty).flatMap Fragment.params =
      members.flatMap Fragment.params := by
  induction members with
  | nil => rfl
  | cons head rest later =>
    cases blank : head.isEmpty with
    | false => simp [blank, later]
    | true => simp [blank, later, Fragment.params_eq_nil_of_isEmpty blank]

theorem params_connect (connective : Connective) (members : List Fragment) :
    (connect connective members).params = members.flatMap Fragment.params := by
  simp only [connect]
  split <;> simp [Fragment.params_join, flatMap_params_printing]

private theorem flatMap_raw_params (texts : List String) :
    (texts.map Fragment.raw).flatMap Fragment.params = [] := by
  induction texts with
  | nil => rfl
  | cons text rest later => exact later

/-- A rendering holds exactly the values of its node, in order. -/
theorem params_of_render {node : Expr} {fragment : Fragment}
    (rendered : render node = .ok fragment) : fragment.params = values node := by
  refine render_induct ?compare ?inList ?like ?isNull ?not ?group ?raw ?template ?columns ?orderBy
    rendered
  case compare => exact fun _ _ _ => rfl
  case inList =>
    intro field values negated some
    rw [Fragment.params_push_raw, Fragment.params_append, Fragment.params_paramList]
    rfl
  case like => exact fun _ _ => rfl
  case isNull => exact fun _ _ => rfl
  case not =>
    intro inner fragment within
    rw [params_negate, within, values]
  case group =>
    intro connective children fragments some within
    rw [params_connect, flatMap_params within, values]
  case raw => exact fun _ => rfl
  case template => exact fun _ _ _ made => Fragment.params_of_template made
  case columns =>
    intro names
    rw [Fragment.params_join, flatMap_raw_params, values]
  case orderBy =>
    intro terms
    have texts := flatMap_raw_params (terms.map SortTerm.text)
    rw [List.map_map] at texts
    rw [Fragment.params_join, values]
    exact texts

theorem params_of_renderJoined {separator : String} {nodes : List Expr} {fragment : Fragment}
    (rendered : renderJoined separator nodes = .ok fragment) :
    fragment.params = valuesEach nodes := by
  obtain ⟨fragments, each, rfl⟩ := renderJoined_eq_ok_iff.mp rendered
  rw [Fragment.params_join]
  exact flatMap_params (each.imp fun _ _ => params_of_render)

/-! Replacing the values of a node -/

mutual

/-- The node with every value replaced. -/
def mapValues (change : Value → Value) : Expr → Expr
  | compare field op value => compare field op (change value)
  | inList field values negated => inList field (values.map change) negated
  | like field pattern => like field (change pattern)
  | isNull field negated => isNull field negated
  | not inner => not (mapValues change inner)
  | group connective children => group connective (mapEach change children)
  | raw text => raw text
  | template text values => template text (values.map change)
  | columns names => columns names
  | orderBy terms => orderBy terms

/-- The nodes with every value replaced. -/
def mapEach (change : Value → Value) : List Expr → List Expr
  | [] => []
  | node :: rest => mapValues change node :: mapEach change rest

end

theorem mapEach_eq_map (change : Value → Value) (nodes : List Expr) :
    mapEach change nodes = nodes.map (mapValues change) := by
  induction nodes with
  | nil => rfl
  | cons node rest later => exact congrArg (mapValues change node :: ·) later

theorem mapValues_negate (change : Value → Value) (inner : Fragment) :
    (negate inner).mapValues change = negate (inner.mapValues change) := by
  simp only [negate, Fragment.isEmpty_mapValues]
  split <;> simp

theorem mapValues_connect (change : Value → Value) (connective : Connective)
    (members : List Fragment) :
    (connect connective members).mapValues change =
      connect connective (members.map (Fragment.mapValues change)) := by
  simp only [connect, Fragment.filter_mapValues, List.length_map]
  split <;> simp

private theorem renderEach_map {change : Value → Value} {nodes : List Expr}
    (each : ∀ node ∈ nodes,
      render (mapValues change node) = (render node).map (Fragment.mapValues change)) :
    renderEach (mapEach change nodes) =
      (renderEach nodes).map (List.map (Fragment.mapValues change)) := by
  induction nodes with
  | nil => rfl
  | cons node rest later =>
    have head := each node List.mem_cons_self
    have tail := later fun other member => each other (List.mem_cons_of_mem _ member)
    simp only [mapEach, renderEach, head, tail]
    cases render node with
    | error error => rfl
    | ok fragment => cases renderEach rest <;> rfl

/-- Rendering looks at no value: replacing the values before it and after it is the same, and a
fault shows either way. -/
theorem render_mapValues (change : Value → Value) (node : Expr) :
    render (mapValues change node) = (render node).map (Fragment.mapValues change) := by
  induction node using induct with
  | compare field op value => rfl
  | inList field values negated =>
    simp only [mapValues, render, renderInList, List.isEmpty_map]
    split
    · rfl
    · simp [Except.map]
  | like field pattern => rfl
  | isNull field negated => rfl
  | not inner within =>
    rw [mapValues, render, render, within]
    cases render inner with
    | error error => rfl
    | ok fragment => exact congrArg Except.ok (mapValues_negate change fragment).symm
  | group connective children within =>
    have length : (mapEach change children).isEmpty = children.isEmpty := by
      cases children <;> rfl
    rw [mapValues, render, render, length, renderEach_map within]
    split
    · rfl
    · cases renderEach children with
      | error error => rfl
      | ok fragments =>
        exact congrArg Except.ok (mapValues_connect change connective fragments).symm
  | raw text => rfl
  | template text values => exact Fragment.template_map change text values
  | columns names =>
    simp [mapValues, render, Except.map, Function.comp_def]
  | orderBy terms =>
    simp [mapValues, render, Except.map, Function.comp_def]

theorem renderJoined_mapValues (change : Value → Value) (separator : String)
    (nodes : List Expr) :
    renderJoined separator (nodes.map (mapValues change)) =
      (renderJoined separator nodes).map (Fragment.mapValues change) := by
  rw [renderJoined, renderJoined, ← mapEach_eq_map,
    renderEach_map fun node _ => render_mapValues change node]
  cases renderEach nodes with
  | error error => rfl
  | ok fragments =>
    exact congrArg Except.ok (Fragment.mapValues_join change separator fragments).symm

end QueryGate.Expr
