import QueryGate.Proofs.BlankNodes
import QueryGate.Proofs.ClauseContributions

/-! The bodies of clauses. Clauses of nodes pass over what prints nothing and are left out when
nothing is left, so they never show a keyword without a body or a separator without an item. Only
GROUP BY takes its names as they come: it is filled exactly when none of them is empty. -/
namespace QueryGate.ClauseBodies
open QueryGate.Select QueryGate.Expr QueryGate.ClauseContributions QueryGate.BlankNodes Outcomes

/-! Statements as they are written -/

/-- A clause as it is written: a keyword, and items with a separator between neighbours. -/
structure Written where
  keyword : String
  separator : String
  items : List Fragment

/-- The clause has a body, and no item of the body is empty. -/
structure Written.Filled (clause : Written) : Prop where
  body : clause.items ≠ []
  items : ∀ item ∈ clause.items, ∀ dialect, item.text dialect ≠ ""

def Written.chunks (clause : Written) : List Chunk :=
  .raw clause.keyword
    :: [Chunk.raw clause.separator].intercalate (clause.items.map Fragment.chunks)

/-- A clause that is left out when there are no items for it. -/
def written (keyword separator : String) (items : List Fragment) : List Written :=
  if items.isEmpty then [] else [⟨keyword, separator, items⟩]

/-- The fragments of the nodes that print something. -/
def printing (nodes : List Expr) : List Fragment := (shown nodes).toOption.getD []

/-- The entries of a node that lists names or sort terms, each as a node of its own. -/
def entries : Expr → List Expr
  | .columns names => names.map fun name => .columns [name]
  | .orderBy terms => terms.map fun term => .orderBy [term]
  | node => [node]

/-- The clauses of a statement in the order in which they are written. The column list and the
ordering are taken apart at every comma. The names to group by are items as they were given. -/
def layout (select : Select) : List Written :=
  ⟨select.opening, ", ", printing (select.columns.flatMap entries)⟩
    :: written " FROM " "" (printing [.raw (select.source.getD "")])
    ++ written " " " " (printing select.joins)
    ++ written " WHERE " " AND " (printing select.conditions)
    ++ written " GROUP BY " ", " (select.groups.map Fragment.raw)
    ++ written " HAVING " " AND " (printing select.having)
    ++ written " ORDER BY " ", " (printing (select.ordering.flatMap entries))

/-- A statement put together from its layout, with the limit and the offset behind it. -/
def laidOut (select : Select) : Fragment :=
  ⟨(layout select).flatMap Written.chunks⟩
    ++ numberClause " LIMIT " select.limit ++ numberClause " OFFSET " select.offset

/-! Bodies of nodes -/

theorem printing_prints (nodes : List Expr) : ∀ item ∈ printing nodes, item.isEmpty = false := by
  intro item member
  rw [printing, shown] at member
  cases rendered : renderEach nodes with
  | error error => simp [rendered, Except.map, Except.toOption] at member
  | ok fragments =>
    rw [rendered] at member
    simpa using (List.mem_filter.mp member).2

theorem body_of_rendered {separator : String} {nodes : List Expr} {body : Fragment}
    (rendered : renderJoined separator nodes = .ok body) :
    body = Fragment.join separator (printing nodes) := by
  rw [renderJoined_eq_shown, map_eq_ok_iff] at rendered
  obtain ⟨items, shows, rfl⟩ := rendered
  rw [printing, shows]
  rfl

theorem isEmpty_join_printing (separator : String) (nodes : List Expr) :
    (Fragment.join separator (printing nodes)).isEmpty = (printing nodes).isEmpty := by
  rw [Fragment.isEmpty_join]
  cases items : printing nodes with
  | nil => rfl
  | cons item rest =>
    have member : item ∈ printing nodes := items ▸ List.mem_cons_self
    rw [List.all_cons, printing_prints nodes item member]
    rfl

/-- A clause of nodes is written with the items that print, if there are any. -/
theorem chunks_clause {separator : String} {nodes : List Expr} {body : Fragment}
    (rendered : renderJoined separator nodes = .ok body) (keyword : String) :
    (clause keyword body).chunks =
      (written keyword separator (printing nodes)).flatMap Written.chunks := by
  rw [body_of_rendered rendered, clause, isEmpty_join_printing, written]
  split
  · rfl
  · simp [Fragment.chunks_join_of_prints (printing_prints nodes), Written.chunks]

theorem chunks_source (text : String) :
    (clause " FROM " (Fragment.raw text)).chunks =
      (written " FROM " "" (printing [.raw text])).flatMap Written.chunks := by
  have rendered : renderJoined "" [.raw text] = .ok (Fragment.join "" [Fragment.raw text]) := rfl
  rw [← chunks_clause rendered, clause, clause, Fragment.isEmpty_join]
  cases blank : (Fragment.raw text).isEmpty with
  | true => simp [blank]
  | false => simp [blank, Fragment.join_singleton]

/-- Taking the nodes of a list apart at its commas changes nothing. -/
theorem renderJoined_entries_eq (nodes : List Expr) :
    renderJoined ", " (nodes.flatMap entries) = renderJoined ", " nodes := by
  have each (node : Expr) : renderJoined ", " (entries node) = renderJoined ", " [node] := by
    cases node with
    | columns names => exact renderJoined_entries lists_columns names
    | orderBy terms => exact renderJoined_entries lists_orderBy terms
    | _ => rfl
  have same := renderJoined_flatMap_congr each nodes
  rwa [List.flatMap_singleton'] at same

/-! The names to group by -/

/-- The text of a GROUP BY clause. -/
def groupText (names : List String) : String :=
  if names.isEmpty then "" else " GROUP BY " ++ ", ".intercalate names

theorem textsFrom_raw (dialect : Dialect) (position : Nat) (names : List String) :
    Fragment.textsFrom dialect position (names.map Fragment.raw) = names := by
  induction names generalizing position with
  | nil => rfl
  | cons name rest later =>
    rw [List.map_cons, Fragment.textsFrom, later]
    simp [Fragment.textFrom]

theorem textFrom_groupClause (dialect : Dialect) (position : Nat) (names : List String) :
    Fragment.textFrom dialect position (groupClause names).chunks = groupText names := by
  rw [groupClause, groupText]
  split
  · rfl
  · simp [Fragment.textFrom]

theorem textFrom_writtenGroups (dialect : Dialect) (position : Nat) (names : List String) :
    Fragment.textFrom dialect position
      ((written " GROUP BY " ", " (names.map Fragment.raw)).flatMap Written.chunks) =
        groupText names := by
  rw [written, List.isEmpty_map, groupText]
  split
  · rfl
  · rw [List.flatMap_singleton, Written.chunks, Fragment.textFrom, Fragment.textFrom_intercalate,
      textsFrom_raw]

theorem paramsOf_writtenGroups (names : List String) :
    Fragment.paramsOf
      ((written " GROUP BY " ", " (names.map Fragment.raw)).flatMap Written.chunks) = [] := by
  rw [written, List.isEmpty_map]
  split
  · rfl
  · rw [List.flatMap_singleton, Written.chunks, Fragment.paramsOf, Fragment.paramsOf_intercalate]
    simp [Fragment.paramsOf]

/-! The statement and its layout -/

/-- What is written in front of a GROUP BY clause. -/
def beforeGroups (select : Select) (clauses : Clauses) : Fragment :=
  select.front clauses ++ clause " WHERE " clauses.conditions

/-- What is written behind a GROUP BY clause. -/
def afterGroups (select : Select) (clauses : Clauses) : Fragment :=
  clause " HAVING " clauses.having ++ clause " ORDER BY " clauses.ordering
    ++ numberClause " LIMIT " select.limit ++ numberClause " OFFSET " select.offset

theorem chunks_around_groups (select : Select) (clauses : Clauses) :
    (select.assemble clauses).chunks = (beforeGroups select clauses).chunks
      ++ (groupClause select.groups).chunks ++ (afterGroups select clauses).chunks := by
  simp [assemble, beforeGroups, front, afterGroups]

theorem chunks_laidOut {select : Select} {clauses : Clauses} (ready : select.RendersTo clauses) :
    (laidOut select).chunks = (beforeGroups select clauses).chunks
      ++ (written " GROUP BY " ", " (select.groups.map Fragment.raw)).flatMap Written.chunks
      ++ (afterGroups select clauses).chunks := by
  have columns := (renderJoined_entries_eq select.columns).trans ready.columns
  have ordering := (renderJoined_entries_eq select.ordering).trans ready.ordering
  have opening : Written.chunks ⟨select.opening, ", ", printing (select.columns.flatMap entries)⟩ =
      .raw select.opening :: clauses.columns.chunks := by
    rw [Written.chunks, body_of_rendered columns,
      Fragment.chunks_join_of_prints (printing_prints _)]
  simp only [laidOut, layout, beforeGroups, front, afterGroups, Fragment.chunks_append,
    Fragment.chunks_raw, List.flatMap_append, List.flatMap_cons, opening, chunks_source,
    chunks_clause ready.joins, chunks_clause ready.conditions, chunks_clause ready.having,
    chunks_clause ordering, List.append_assoc, List.cons_append, List.nil_append]

/-- The text of a statement with the names between what is in front of GROUP BY and what is behind
it. The names hold no values. -/
def textAround (select : Select) (clauses : Clauses) (dialect : Dialect) (names : List String) :
    String :=
  (beforeGroups select clauses).text dialect ++ groupText names
    ++ Fragment.textFrom dialect (1 + (beforeGroups select clauses).paramCount)
      (afterGroups select clauses).chunks

theorem text_eq_textAround {select : Select} {clauses : Clauses} {dialect : Dialect}
    {names : List String} {fragment : Fragment} {groups : List Chunk}
    (cut : fragment.chunks = (beforeGroups select clauses).chunks ++ groups
      ++ (afterGroups select clauses).chunks)
    (printed : ∀ position, Fragment.textFrom dialect position groups = groupText names)
    (unvalued : Fragment.paramsOf groups = []) :
    fragment.text dialect = textAround select clauses dialect names := by
  rw [Fragment.text_eq_textFrom, cut, Fragment.textFrom_append, Fragment.textFrom_append, printed,
    Fragment.paramsOf_append, unvalued, List.append_nil, textAround, Fragment.text_eq_textFrom]
  rfl

theorem text_assembled (select : Select) (clauses : Clauses) (dialect : Dialect) :
    (select.assemble clauses).text dialect =
      textAround select clauses dialect select.groups :=
  text_eq_textAround (chunks_around_groups select clauses)
    (fun position => textFrom_groupClause dialect position select.groups)
    (params_groupClause select.groups)

/-- A statement that is built reads as it is laid out. -/
theorem build_laidOut {select : Select} {dialect : Dialect} {statement : Statement}
    (built : select.build dialect = .ok statement) :
    (laidOut select).build dialect = statement := by
  obtain ⟨clauses, ready, rfl⟩ := exists_clauses_of_build built
  have text : (laidOut select).text dialect = (select.assemble clauses).text dialect := by
    rw [text_assembled]
    exact text_eq_textAround (chunks_laidOut ready)
      (fun position => textFrom_writtenGroups dialect position select.groups)
      (paramsOf_writtenGroups select.groups)
  have params : (laidOut select).params = (select.assemble clauses).params := by
    have unvalued : Fragment.paramsOf (groupClause select.groups).chunks = [] :=
      params_groupClause select.groups
    rw [Fragment.params, Fragment.params, chunks_laidOut ready, chunks_around_groups]
    simp only [Fragment.paramsOf_append, paramsOf_writtenGroups, unvalued]
  rw [Fragment.build_eq_text_params, text, params]

/-! Clauses that are filled -/

theorem filled_of_prints {part : Written} (body : part.items ≠ [])
    (prints : ∀ item ∈ part.items, item.isEmpty = false) : part.Filled where
  body := body
  items := by
    intro item member dialect empty
    have blank := (isEmpty_iff_text item dialect).mpr empty
    rw [prints item member] at blank
    cases blank

theorem filled_written {items : List Fragment} (prints : ∀ item ∈ items, item.isEmpty = false)
    (keyword separator : String) : ∀ part ∈ written keyword separator items, part.Filled := by
  intro part member
  rw [written] at member
  split at member
  · cases member
  · rename_i some
    rw [List.mem_singleton.mp member]
    exact filled_of_prints (by simpa using some) prints

theorem filled_groups_iff (names : List String) :
    (∀ part ∈ written " GROUP BY " ", " (names.map Fragment.raw), part.Filled) ↔ "" ∉ names := by
  constructor
  · intro filled empty
    have listed : written " GROUP BY " ", " (names.map Fragment.raw) =
        [⟨" GROUP BY ", ", ", names.map Fragment.raw⟩] := by
      rw [written, if_neg]
      simpa using List.ne_nil_of_mem empty
    rw [listed, List.forall_mem_singleton] at filled
    exact filled.items (Fragment.raw "") (List.mem_map_of_mem empty) default rfl
  · intro named
    refine filled_written (fun item member => ?_) _ _
    obtain ⟨name, listed, rfl⟩ := List.mem_map.mp member
    rw [Fragment.isEmpty_raw, decide_eq_false_iff_not]
    exact fun empty => named (empty ▸ listed)

/-- All clauses of a statement with some column are filled, but for GROUP BY, which is if none of
its names is empty. -/
theorem layout_filled_iff {select : Select} {clauses : Clauses}
    (ready : select.RendersTo clauses) :
    (∀ part ∈ layout select, part.Filled) ↔ "" ∉ select.groups := by
  have columns := (renderJoined_entries_eq select.columns).trans ready.columns
  have seen : printing (select.columns.flatMap entries) ≠ [] := by
    have visible := ready.visible
    rw [body_of_rendered columns, isEmpty_join_printing] at visible
    simpa using visible
  have filled (keyword separator : String) (nodes : List Expr) :=
    filled_written (printing_prints nodes) keyword separator
  simp only [layout, List.forall_mem_cons, List.forall_mem_append, filled_groups_iff]
  constructor
  · rintro ⟨⟨⟨-, named⟩, -⟩, -⟩
    exact named
  · intro named
    have opening : Written.Filled
        ⟨select.opening, ", ", printing (select.columns.flatMap entries)⟩ :=
      filled_of_prints seen (printing_prints _)
    exact ⟨⟨⟨⟨⟨⟨opening, filled _ _ _⟩, filled _ _ _⟩, filled _ _ _⟩, named⟩, filled _ _ _⟩,
      filled _ _ _⟩

/-! Steps without empty names -/

/-- The step without the empty ones of the names that it selects. -/
def selectNamed : Step → Step
  | .select names => .select (names.filter (· ≠ ""))
  | step => step

/-- The step without the empty ones of the names that it groups by. -/
def groupNamed : Step → Step
  | .groupBy names => .groupBy (names.filter (· ≠ ""))
  | step => step

theorem prints_like_apply {first second : Select} (alike : PrintsLike first second) (step : Step) :
    PrintsLike (first.apply step) (second.apply step) := by
  rw [apply_eq, apply_eq]
  exact {
    columns := by rw [renderJoined_append, renderJoined_append, alike.columns]
    source := by rw [alike.source]
    joins := by rw [renderJoined_append, renderJoined_append, alike.joins]
    conditions := by rw [renderJoined_append, renderJoined_append, alike.conditions]
    groups := by rw [alike.groups]
    having := by rw [renderJoined_append, renderJoined_append, alike.having]
    ordering := by
      rw [renderJoined_append, renderJoined_append]
      split
      · rfl
      · rw [alike.ordering]
    limit := by rw [alike.limit]
    offset := by rw [alike.offset]
    distinct := by rw [alike.distinct] }

/-- Empty names print nothing in a column list. -/
theorem renderJoined_selectNamed (step : Step) :
    renderJoined ", " (columnNodes (selectNamed step)) =
      renderJoined ", " (columnNodes step) := by
  cases step with
  | select names =>
    have renders (names : List String) : renderJoined ", " (wrapped .columns names) =
        .ok (Fragment.join ", " (names.map Fragment.raw)) := by
      rw [wrapped]
      split
      · rename_i none
        rw [List.isEmpty_iff.mp none]
        rfl
      · exact renderJoined_eq_ok_iff.mpr ⟨_, .cons rfl .nil, Fragment.join_join ..⟩
    have kept : (names.filter (· ≠ "")).map Fragment.raw =
        (names.map Fragment.raw).filter fun fragment => !fragment.isEmpty := by
      simp [List.filter_map, Function.comp_def, Fragment.isEmpty_raw]
    rw [selectNamed, columnNodes, columnNodes, renders, renders, kept, Fragment.join_printing]
  | _ => rfl

theorem prints_like_step (select : Select) (step : Step) :
    PrintsLike (select.apply (selectNamed step)) (select.apply step) := by
  cases step with
  | select names =>
    have columns : renderJoined ", " (select.apply (selectNamed (.select names))).columns =
        renderJoined ", " (select.apply (.select names)).columns := by
      rw [apply_eq, apply_eq, renderJoined_append, renderJoined_append, renderJoined_selectNamed]
    rw [apply_eq, apply_eq] at columns ⊢
    exact { PrintsLike.refl _ with columns }
  | _ => exact PrintsLike.refl _

theorem prints_like_selectNamed {first second : Select} (alike : PrintsLike first second)
    (steps : List Step) :
    PrintsLike (first.applyAll (steps.map selectNamed)) (second.applyAll steps) := by
  induction steps generalizing first second with
  | nil => exact alike
  | cons step rest later =>
    exact later ((prints_like_step first step).trans (prints_like_apply alike step))

/-- The statement without the empty ones of its names to group by. -/
def groupsNamed (select : Select) : Select :=
  { select with groups := select.groups.filter (· ≠ "") }

theorem apply_groupNamed (select : Select) (step : Step) :
    (groupsNamed select).apply (groupNamed step) = groupsNamed (select.apply step) := by
  rw [apply_eq, apply_eq]
  cases step <;> simp [groupsNamed, groupNamed]

theorem applyAll_groupNamed (select : Select) (steps : List Step) :
    (groupsNamed select).applyAll (steps.map groupNamed) =
      groupsNamed (select.applyAll steps) := by
  induction steps generalizing select with
  | nil => rfl
  | cons step rest later =>
    rw [List.map_cons, applyAll, List.foldl_cons, apply_groupNamed]
    exact later (select.apply step)

/-! The text of groups without empty names -/

theorem length_intercalate {names : List String} (some : names ≠ []) :
    (", ".intercalate names).length + 2 = (String.join names).length + 2 * names.length := by
  induction names with
  | nil => exact absurd rfl some
  | cons name rest later =>
    cases rest with
    | nil => simp
    | cons next others =>
      have tail := later (by simp)
      rw [String.intercalate_cons_cons, String.length_append, String.length_append,
        String.join_cons, String.length_append, List.length_cons]
      have comma : ", ".length = 2 := rfl
      omega

theorem join_named (names : List String) :
    String.join (names.filter (· ≠ "")) = String.join names := by
  induction names with
  | nil => rfl
  | cons name rest later =>
    rw [String.join_cons, ← later]
    by_cases empty : name = ""
    · simp [empty]
    · simp [empty]

/-- Every empty name leaves a trace in the text. -/
theorem groupText_named_iff (names : List String) :
    groupText (names.filter (· ≠ "")) = groupText names ↔ "" ∉ names := by
  constructor
  · intro same empty
    have some : names ≠ [] := List.ne_nil_of_mem empty
    rw [groupText, groupText, if_neg (c := names.isEmpty = true) (by simpa using some)] at same
    split at same
    · simp at same
    · rename_i kept
      have lengths := congrArg String.length ((String.append_right_inj _).mp same)
      have shorter := length_intercalate (mt List.isEmpty_iff.mpr kept)
      have longer := length_intercalate some
      have fewer : (names.filter (· ≠ "")).length < names.length :=
        List.length_filter_lt_length_iff_exists.mpr ⟨"", empty, by simp⟩
      rw [join_named] at shorter
      omega
  · intro named
    have all : names.filter (· ≠ "") = names := by
      refine List.filter_eq_self.mpr fun name member => decide_eq_true fun empty => ?_
      exact named (empty ▸ member)
    rw [all]

/-- Leaving the empty names to group by out gives the same statement only if there are none. -/
theorem build_groupsNamed_iff {select : Select} {dialect : Dialect} {statement : Statement}
    (built : select.build dialect = .ok statement) :
    (groupsNamed select).build dialect = .ok statement ↔ "" ∉ select.groups := by
  obtain ⟨clauses, ready, rfl⟩ := exists_clauses_of_build built
  have named : (groupsNamed select).render = .ok ((groupsNamed select).assemble clauses) :=
    render_eq_ok_iff.mpr ⟨clauses, { ready with }, rfl⟩
  have dropped : ((groupsNamed select).assemble clauses).text dialect =
      textAround select clauses dialect (select.groups.filter (· ≠ "")) :=
    text_assembled (groupsNamed select) clauses dialect
  have same : ((groupsNamed select).assemble clauses).text dialect =
      (select.assemble clauses).text dialect ↔ "" ∉ select.groups := by
    rw [dropped, text_assembled, textAround, textAround, String.append_left_inj,
      String.append_right_inj, groupText_named_iff]
  have params : ((groupsNamed select).assemble clauses).params =
      (select.assemble clauses).params := by
    rw [params_assemble, params_assemble]
  rw [build_eq, named]
  simp [Except.map, params, same]

/-- Every clause of a statement that is built has a body and no empty item, exactly when no name to
group by is empty. Empty names that are selected add nothing to any statement; those to group by add
nothing when there are none. -/
theorem clauses_filled_iff_groups_named (steps : List Step) (dialect : Dialect)
    {statement : Statement}
    (built : (Select.empty.applyAll steps).build dialect = .ok statement) :
    (laidOut (Select.empty.applyAll steps)).build dialect = statement ∧
      ((∀ part ∈ layout (Select.empty.applyAll steps), part.Filled) ↔
        "" ∉ steps.flatMap groupNames) ∧
      (Select.empty.applyAll (steps.map selectNamed)).build dialect = .ok statement ∧
      ((Select.empty.applyAll (steps.map groupNamed)).build dialect = .ok statement ↔
        "" ∉ steps.flatMap groupNames) := by
  have groups : (Select.empty.applyAll steps).groups = steps.flatMap groupNames := by
    rw [applyAll_eq]
  have filled : (∀ part ∈ layout (Select.empty.applyAll steps), part.Filled) ↔
      "" ∉ (Select.empty.applyAll steps).groups := by
    obtain ⟨clauses, ready, -⟩ := exists_clauses_of_build built
    exact layout_filled_iff ready
  have selected := (prints_like_selectNamed (PrintsLike.refl Select.empty) steps).build_eq dialect
  have grouped : Select.empty.applyAll (steps.map groupNamed) =
      groupsNamed (Select.empty.applyAll steps) := applyAll_groupNamed Select.empty steps
  rw [grouped, ← groups]
  exact ⟨build_laidOut built, filled, selected.trans built, build_groupsNamed_iff built⟩

/-- Empty names to select, blank nodes and an empty source around names to group by. -/
def authorsByYear : List Step :=
  [.select ["", "author"], .column (.raw ""), .select ["", ""], .source "", .condition (.raw ""),
    .groupBy ["author"], .groupBy ["year"], .having (.compare "total" .gt (.integer 1)),
    .ordering (.columns [""])]

theorem authors_by_year_filled :
    (Select.empty.applyAll authorsByYear).build .sqlite =
        .ok ⟨"SELECT author GROUP BY author, year HAVING total > ?", [.integer 1]⟩ ∧
      (∀ part ∈ layout (Select.empty.applyAll authorsByYear), part.Filled) ∧
      (Select.empty.applyAll (authorsByYear.map selectNamed)).build .sqlite =
        .ok ⟨"SELECT author GROUP BY author, year HAVING total > ?", [.integer 1]⟩ := by
  have built : (Select.empty.applyAll authorsByYear).build .sqlite =
      .ok ⟨"SELECT author GROUP BY author, year HAVING total > ?", [.integer 1]⟩ := rfl
  obtain ⟨-, filled, selected, -⟩ := clauses_filled_iff_groups_named authorsByYear .sqlite built
  exact ⟨built, filled.mpr (by decide), selected⟩

/-- An empty name to group by leaves a keyword without a body, and without the name there is no
keyword. -/
theorem empty_name_leaves_keyword :
    let steps : List Step := [.select ["id"], .source "articles", .groupBy [""]]
    (Select.empty.applyAll steps).build .sqlite =
        .ok ⟨"SELECT id FROM articles GROUP BY ", []⟩ ∧
      (¬ ∀ part ∈ layout (Select.empty.applyAll steps), part.Filled) ∧
      (Select.empty.applyAll (steps.map groupNamed)).build .sqlite =
        .ok ⟨"SELECT id FROM articles", []⟩ := by
  refine ⟨rfl, fun filled => ?_, rfl⟩
  have last : (⟨" GROUP BY ", ", ", [Fragment.raw ""]⟩ : Written) ∈
      layout (Select.empty.applyAll [.select ["id"], .source "articles", .groupBy [""]]) :=
    .tail _ (.tail _ (.head _))
  exact (filled _ last).items (Fragment.raw "") List.mem_cons_self .sqlite rfl

end QueryGate.ClauseBodies
