import QueryGate.Proofs.ConditionRendering
import QueryGate.Proofs.StatementProofs

/-! Rendering keeps the boolean structure of conditions. Whatever members print nothing, the
parentheses that remain are those that the precedence of AND over OR needs, so a rendered clause is
read back with the truth value that its conditions have together. -/
namespace QueryGate.ConditionStructure
open ConditionGrammar Fragment

/-! Conditions as trees -/

mutual

/-- The truth value of a condition whose atoms have the given ones, unless it is blank. Blank
members of a group do not count. -/
def truth? (assign : Atom → Truth) : Expr → Option Truth
  | .compare field op value => some (assign (.compare field op value))
  | .inList field values negated => some (assign (.inList field values negated))
  | .like field pattern => some (assign (.like field pattern))
  | .isNull field negated => some (assign (.isNull field negated))
  | .not inner => (truth? assign inner).map .not
  | .group connective children => joinAll? (.join connective) (truths assign children)
  | .raw _ | .template _ _ | .columns _ | .orderBy _ => none

/-- The truth values of the conditions that are not blank. -/
def truths (assign : Atom → Truth) : List Expr → List Truth
  | [] => []
  | node :: rest => (truth? assign node).toList ++ truths assign rest

end

mutual

/-- A raw text of no characters, a negation of something blank, or a group of blank members. -/
def Blank : Expr → Prop
  | .raw text => text = ""
  | .not inner => Blank inner
  | .group _ children => AllBlank children
  | _ => False

def AllBlank : List Expr → Prop
  | [] => True
  | node :: rest => Blank node ∧ AllBlank rest

end

mutual

/-- A condition over field names, without empty lists and groups, and without any raw text but the
empty one. -/
def Plain : Expr → Prop
  | .compare field _ _ => FieldName field
  | .inList field values _ => FieldName field ∧ values ≠ []
  | .like field _ => FieldName field
  | .isNull field _ => FieldName field
  | .not inner => Plain inner
  | .group _ children => children ≠ [] ∧ AllPlain children
  | .raw text => text = ""
  | .template _ _ | .columns _ | .orderBy _ => False

def AllPlain : List Expr → Prop
  | [] => True
  | node :: rest => Plain node ∧ AllPlain rest

end

theorem allBlank_iff {nodes : List Expr} : AllBlank nodes ↔ ∀ node ∈ nodes, Blank node := by
  induction nodes with
  | nil => simp [AllBlank]
  | cons node rest later => rw [AllBlank, later, List.forall_mem_cons]

theorem allPlain_iff {nodes : List Expr} : AllPlain nodes ↔ ∀ node ∈ nodes, Plain node := by
  induction nodes with
  | nil => simp [AllPlain]
  | cons node rest later => rw [AllPlain, later, List.forall_mem_cons]

/-! Survivors -/

private theorem joinAll_map {α β : Type} {join : α → α → α} {other : β → β → β} {view : α → β}
    (same : ∀ a b, view (join a b) = other (view a) (view b)) (members : List α) :
    joinAll? other (members.map view) = (joinAll? join members).map view := by
  induction members with
  | nil => rfl
  | cons first rest later =>
    cases rest with
    | nil => rfl
    | cons second others =>
      have viewed : joinAll? other ((first :: second :: others).map view) =
          (joinAll? other ((second :: others).map view)).map (other (view first)) := rfl
      have whole : joinAll? join (first :: second :: others) =
          (joinAll? join (second :: others)).map (join first) := rfl
      rw [viewed, whole, later, Option.map_map, Option.map_map]
      exact congrArg (Option.map · _) (funext fun rest => (same first rest).symm)

/-- What a rendered condition is: nothing at all for a blank one, and otherwise a text that is read
as a formula with the same truth value. -/
inductive Faithful (node : Expr) (fragment : Fragment) : Prop where
  | blank (nothing : fragment.isEmpty = true) (blank : Blank node)
      (unvalued : ∀ assign, truth? assign node = none)
  | formula (prints : fragment.isEmpty = false) (visible : ¬ Blank node) (formula : Formula)
      (reads : Reads fragment formula)
      (truth : ∀ assign, truth? assign node = some (formula.truth assign))

/-- The formulas stand one for one for the fragments that print, and for the conditions that are
not blank. -/
structure Survive (nodes : List Expr) (fragments : List Fragment) (formulas : List Formula) :
    Prop where
  reads : List.Forall₂ Reads (fragments.filter fun fragment => !fragment.isEmpty) formulas
  truths : ∀ assign, truths assign nodes = formulas.map (Formula.truth assign)
  blank : AllBlank nodes ↔ formulas = []

theorem survivors {nodes : List Expr} {fragments : List Fragment}
    (each : List.Forall₂ Faithful nodes fragments) :
    ∃ formulas, Survive nodes fragments formulas := by
  induction each with
  | nil => exact ⟨[], .nil, fun _ => rfl, by simp [AllBlank]⟩
  | @cons node fragment nodes fragments head _ later =>
    obtain ⟨formulas, reads, truths, blank⟩ := later
    cases head with
    | blank nothing hidden unvalued =>
      refine ⟨formulas, ?_, fun assign => ?_, ?_⟩
      · simpa [nothing] using reads
      · rw [ConditionStructure.truths, unvalued, truths]
        rfl
      · rw [AllBlank, blank, and_iff_right hidden]
    | formula prints visible formula read truth =>
      refine ⟨formula :: formulas, ?_, fun assign => ?_, ?_⟩
      · simpa [prints] using List.Forall₂.cons read reads
      · rw [ConditionStructure.truths, truth, truths]
        rfl
      · simp [AllBlank, visible]

private theorem joinAll_some {α : Type} (join : α → α → α) {members : List α}
    (nonempty : members ≠ []) : ∃ whole, joinAll? join members = .some whole := by
  induction members with
  | nil => exact absurd rfl nonempty
  | cons first rest later =>
    cases rest with
    | nil => exact ⟨first, rfl⟩
    | cons second others =>
      obtain ⟨whole, joined⟩ := later (List.cons_ne_nil second others)
      exact ⟨join first whole, congrArg (Option.map (join first)) joined⟩

/-- The truth values of surviving members join to that of their joined formula. -/
private theorem truth_of_joined (connective : Connective) {nodes : List Expr}
    {fragments : List Fragment} {formulas : List Formula} {whole : Formula}
    (survive : Survive nodes fragments formulas)
    (joined : joinAll? (.join connective) formulas = some whole) (assign : Atom → Truth) :
    joinAll? (.join connective) (truths assign nodes) = some (whole.truth assign) := by
  have same : ∀ left right : Formula, Formula.truth assign (.join connective left right) =
      .join connective (left.truth assign) (right.truth assign) := fun _ _ => rfl
  rw [survive.truths, joinAll_map same, joined]
  rfl

theorem faithful_negate {inner : Expr} {fragment : Fragment} (faithful : Faithful inner fragment) :
    Faithful (.not inner) (Expr.negate fragment) := by
  cases faithful with
  | blank nothing hidden unvalued =>
    rw [Expr.negate, if_pos nothing]
    refine .blank rfl hidden fun assign => ?_
    rw [truth?, unvalued]
    rfl
  | formula prints visible formula reads truth =>
    have shown : ¬ fragment.isEmpty = true := by simp [prints]
    rw [Expr.negate, if_neg shown]
    refine .formula ?_ visible (.not formula) (reads_negate reads) fun assign => ?_
    · rw [isEmpty_append, isEmpty_parens, Bool.and_false]
    · rw [truth?, truth]
      rfl

/-- A group is read as the join of its survivors. A single survivor is a primary already, so only
two or more need their parentheses. -/
theorem faithful_connect (connective : Connective) {children : List Expr}
    {fragments : List Fragment} (each : List.Forall₂ Faithful children fragments) :
    Faithful (.group connective children) (Expr.connect connective fragments) := by
  obtain ⟨formulas, survive⟩ := survivors each
  have joined : (Fragment.join connective.separator
      (fragments.filter fun fragment => !fragment.isEmpty)).chunks =
      [Chunk.raw connective.separator].intercalate
        ((fragments.filter fun fragment => !fragment.isEmpty).map Fragment.chunks) := by
    rw [join_printing, chunks_join]
  have shown : ∀ fragment ∈ fragments.filter fun fragment => !fragment.isEmpty,
      fragment.isEmpty = false := by simp
  have reads := survive.reads
  simp only [Expr.connect]
  generalize fragments.filter (fun fragment => !fragment.isEmpty) = printing at joined shown reads ⊢
  cases reads with
  | nil =>
    refine .blank rfl (survive.blank.mpr rfl) fun assign => ?_
    rw [truth?, survive.truths]
    rfl
  | @cons fragment formula others further head tail =>
    have visible : ¬ Blank (.group connective children) := by
      intro hidden
      cases survive.blank.mp hidden
    obtain ⟨whole, combined⟩ := joinAll_some (.join connective) (List.cons_ne_nil formula further)
    have truth : ∀ assign, truth? assign (.group connective children) =
        some (whole.truth assign) := truth_of_joined connective survive combined
    cases tail with
    | nil =>
      cases combined
      have alone : Fragment.join connective.separator [fragment] = fragment :=
        congrArg Fragment.mk (joined.trans (by simp))
      rw [alone]
      exact .formula (shown fragment List.mem_cons_self) visible formula head truth
    | @cons second next others further neighbour rest =>
      obtain ⟨pieces, shows, read⟩ := condition_of_join connective
        (List.cons_ne_nil fragment (second :: others)) (.cons head (.cons neighbour rest))
      rw [← joined] at shows
      rw [if_pos (by simp)]
      refine .formula (isEmpty_parens _) visible whole ⟨_, shows_parens shows, ?_⟩ truth
      rw [enclosed_condition (read.trans combined)]
      exact member_of_read (by simp [separates]) rfl

private theorem faithful_members {nodes : List Expr} {fragments : List Fragment}
    (plain : AllPlain nodes)
    (each : List.Forall₂ (fun node fragment => Plain node → Faithful node fragment)
      nodes fragments) : List.Forall₂ Faithful nodes fragments := by
  induction each with
  | nil => exact .nil
  | cons head _ tail => exact .cons (head plain.1) (tail plain.2)

private theorem faithful_atom {node : Expr} {fragment : Fragment} {atom : Atom}
    (prints : fragment.isEmpty = false) (visible : ¬ Blank node)
    (reads : Reads fragment (.atom atom))
    (truth : ∀ assign, truth? assign node = some (assign atom)) : Faithful node fragment :=
  .formula prints visible (.atom atom) reads truth

/-- A rendered condition over field names is read as a formula with its truth value, unless it is
blank and prints nothing. -/
theorem faithful_of_render {node : Expr} {fragment : Fragment} (plain : Plain node)
    (rendered : Expr.render node = .ok fragment) : Faithful node fragment := by
  revert plain
  refine Expr.render_induct ?compare ?inList ?like ?isNull ?not ?group ?raw ?template ?columns
    ?orderBy rendered
  case compare =>
    intro field op value named
    exact faithful_atom (by simp [isEmpty_append]) id (reads_compare named op value) fun _ => rfl
  case inList =>
    intro field values negated nonempty plain
    refine faithful_atom ?_ id (reads_inList plain.1 nonempty negated) fun _ => rfl
    simp [Fragment.isEmpty, Fragment.push, Chunk.isBlank]
  case like =>
    intro field pattern named
    exact faithful_atom (by simp [isEmpty_append]) id (reads_like named pattern) fun _ => rfl
  case isNull =>
    intro field negated named
    refine faithful_atom ?_ id (reads_isNull named negated) fun _ => rfl
    simp [Fragment.isEmpty, Chunk.isBlank, named.1]
  case not =>
    intro inner fragment within plain
    exact faithful_negate (within plain)
  case group =>
    intro connective children fragments _ within plain
    exact faithful_connect connective (faithful_members plain.2 within)
  case raw =>
    rintro text rfl
    exact .blank rfl rfl fun _ => rfl
  case template => exact fun _ _ _ _ impossible => absurd impossible id
  case columns => exact fun _ impossible => absurd impossible id
  case orderBy => exact fun _ impossible => absurd impossible id

private theorem members_render {nodes : List Expr} (plain : AllPlain nodes)
    (each : ∀ node ∈ nodes, Plain node → ∃ fragment, Expr.render node = .ok fragment) :
    ∃ fragments, Expr.renderEach nodes = .ok fragments := by
  induction nodes with
  | nil => exact ⟨[], rfl⟩
  | cons node rest later =>
    obtain ⟨fragment, rendered⟩ := each node List.mem_cons_self plain.1
    obtain ⟨fragments, others⟩ := later plain.2 fun other member =>
      each other (List.mem_cons_of_mem _ member)
    exact ⟨fragment :: fragments, by rw [Expr.renderEach, rendered, others]; rfl⟩

/-- Conditions over field names always render. -/
theorem plain_renders {node : Expr} (plain : Plain node) :
    ∃ fragment, Expr.render node = .ok fragment := by
  induction node using Expr.induct with
  | compare field op value => exact ⟨_, rfl⟩
  | inList field values negated =>
    have nonempty : ¬ values.isEmpty = true := by simpa using plain.2
    exact ⟨_, by rw [Expr.render, Expr.renderInList, if_neg nonempty]⟩
  | like field pattern => exact ⟨_, rfl⟩
  | isNull field negated => exact ⟨_, rfl⟩
  | not inner within =>
    obtain ⟨fragment, rendered⟩ := within plain
    exact ⟨_, by rw [Expr.render, rendered]; rfl⟩
  | group connective children within =>
    obtain ⟨fragments, rendered⟩ := members_render plain.2 within
    have nonempty : ¬ children.isEmpty = true := by simpa using plain.1
    exact ⟨_, by rw [Expr.render, if_neg nonempty, rendered]; rfl⟩
  | raw text => exact ⟨_, rfl⟩
  | template text values => exact absurd plain id
  | columns names => exact absurd plain id
  | orderBy terms => exact absurd plain id

/-! Clauses -/

/-- What the body of a WHERE or HAVING clause over these conditions is. If all conditions are blank
there is no clause; else its text with its values is read as a formula that has, whatever truth
values the atoms have, the truth value of all conditions that are not blank together. -/
structure ReadBack (nodes : List Expr) (body : Fragment) : Prop where
  absent : (∀ node ∈ nodes, Blank node) → ∀ keyword, Select.clause keyword body = .empty
  present : (∃ node ∈ nodes, ¬ Blank node) →
    ∀ keyword, Select.clause keyword body = Fragment.raw keyword ++ body
  read : (∃ node ∈ nodes, ¬ Blank node) → ∀ dialect : Dialect, dialect.numbered = false →
    ∃ formula, parse (body.text dialect) body.params = some formula ∧
      ∀ assign, joinAll? (.join .and) (truths assign nodes) = some (formula.truth assign)

theorem readBack_of_joined {nodes : List Expr} {body : Fragment} (plain : AllPlain nodes)
    (rendered : Expr.renderJoined " AND " nodes = .ok body) : ReadBack nodes body := by
  obtain ⟨fragments, each, rfl⟩ := Expr.renderJoined_eq_ok_iff.mp rendered
  have faithful : List.Forall₂ Faithful nodes fragments :=
    faithful_members plain (each.imp fun _ _ rendered plain => faithful_of_render plain rendered)
  obtain ⟨formulas, survive⟩ := survivors faithful
  have printing := isEmpty_join " AND " fragments
  have blank := survive.blank
  have reads := survive.reads
  rw [allBlank_iff] at blank
  cases formulas with
  | nil =>
    have nothing : fragments.all isEmpty = true := by
      simpa using List.forall₂_nil_right_iff.mp reads
    have hidden : ¬ ∃ node ∈ nodes, ¬ Blank node := by simpa using blank.mpr rfl
    refine ⟨fun _ keyword => ?_, fun seen => absurd seen hidden, fun seen => absurd seen hidden⟩
    rw [Select.clause, printing, if_pos nothing]
  | cons formula further =>
    have shown : ¬ ∀ node ∈ nodes, Blank node := by simp [blank]
    obtain ⟨first, others, -, -, kept⟩ := List.forall₂_cons_right_iff.mp reads
    have nonempty : fragments.filter (fun fragment => !fragment.isEmpty) ≠ [] := by simp [kept]
    have prints : ¬ fragments.all isEmpty = true := by
      obtain ⟨member, visible⟩ := List.mem_filter.mp (kept ▸ List.mem_cons_self)
      intro nothing
      rw [List.all_eq_true.mp nothing first member] at visible
      cases visible
    refine ⟨fun all => absurd all shown, fun _ keyword => ?_, fun _ dialect unnumbered => ?_⟩
    · rw [Select.clause, printing, if_neg prints]
    · obtain ⟨pieces, shows, read⟩ := condition_of_join .and nonempty reads
      obtain ⟨whole, combined⟩ := joinAll_some (.join .and) (List.cons_ne_nil formula further)
      have listed : Shows (join " AND " fragments).chunks pieces := by
        rw [chunks_join]
        exact shows
      exact ⟨whole, parse_of_shows listed (read.trans combined) unnumbered,
        truth_of_joined .and survive combined⟩

/-- Conditions over field names always render, and a WHERE or HAVING clause that lists them is read
back with the truth value that they have together. -/
theorem conditions_read_back {nodes : List Expr} (plain : ∀ node ∈ nodes, Plain node) :
    ∃ body, Expr.renderJoined " AND " nodes = .ok body ∧ ReadBack nodes body ∧
      ∀ select fragment, Select.render select = .ok fragment →
        ∃ clauses, select.RendersTo clauses ∧ select.assemble clauses = fragment ∧
          (select.conditions = nodes → clauses.conditions = body) ∧
          (select.having = nodes → clauses.having = body) := by
  obtain ⟨fragments, rendered⟩ := members_render (allPlain_iff.mpr plain) fun node _ =>
    plain_renders
  have joined : Expr.renderJoined " AND " nodes = .ok (Fragment.join " AND " fragments) := by
    rw [Expr.renderJoined, rendered]
    rfl
  refine ⟨_, joined, readBack_of_joined (allPlain_iff.mpr plain) joined, ?_⟩
  intro select fragment whole
  obtain ⟨clauses, ready, assembled⟩ := Select.render_eq_ok_iff.mp whole
  refine ⟨clauses, ready, assembled, fun same => ?_, fun same => ?_⟩
  · have conditions := ready.conditions
    rw [same, joined] at conditions
    exact (Except.ok.inj conditions).symm
  · have having := ready.having
    rw [same, joined] at having
    exact (Except.ok.inj having).symm

def mixedConditions : List Expr :=
  [.group .or [.compare "author.age" .gtEq (.integer 18), .not (.group .and [.raw ""]),
      .group .and [.isNull "deleted_at" false, .inList "id" [.integer 1, .integer 2] true]],
    .not (.like "title" (.text "x%")), .raw ""]

theorem mixed_conditions_read_back :
    (∀ node ∈ mixedConditions, Plain node) ∧
      ∃ body, Expr.renderJoined " AND " mixedConditions = .ok body ∧
        ReadBack mixedConditions body ∧
        ∀ select fragment, Select.render select = .ok fragment →
          ∃ clauses, select.RendersTo clauses ∧ select.assemble clauses = fragment ∧
            (select.conditions = mixedConditions → clauses.conditions = body) ∧
            (select.having = mixedConditions → clauses.having = body) := by
  have plain : ∀ node ∈ mixedConditions, Plain node := by
    refine allPlain_iff.mp ?_
    simp [mixedConditions, AllPlain, Plain, FieldName, isField]
  exact ⟨plain, conditions_read_back plain⟩

example : (Expr.renderJoined " AND " mixedConditions).map (·.text .sqlite) =
    .ok ("(author.age >= ? OR (deleted_at IS NULL AND id NOT IN (?,?)))"
      ++ " AND NOT (title LIKE ?)") := rfl

end QueryGate.ConditionStructure
