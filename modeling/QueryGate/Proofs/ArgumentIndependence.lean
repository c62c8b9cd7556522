import QueryGate.Proofs.PagingProofs
import QueryGate.Proofs.PolicyStageProofs
import QueryGate.Proofs.RegistryProofs
import QueryGate.Proofs.StatementProofs

/-! Filter arguments never reach the text of a statement. Two queries that differ only in the texts
of their arguments meet the same errors and the same SQL, and the arguments come back as values, in
the places that belong to them. -/
namespace QueryGate.ArgumentIndependence
open Outcomes PolicyStages PageRule Registry

/-- A policy with the built-in conditions, delimited predicates and built-in extensions. All other
settings are those of another policy. -/
def standard (policy : Policy) (delimiters : Delimiters) (rules : List PageRule) : Policy :=
  { policy with
    conditionOf := builtin.condition
    parser := delimiters.parser
    extensions := rules.map PageRule.extension }

/-- The filters name the same field and the same operation, with as many arguments. -/
structure SameFilter (delimiters : Delimiters) (first second : Filter) : Prop where
  field : first.field = second.field
  operation : (delimiters.split first.predicate).operation =
    (delimiters.split second.predicate).operation
  count : (delimiters.split first.predicate).args.length =
    (delimiters.split second.predicate).args.length

/-- The queries agree in everything but the texts of their filter arguments. -/
structure SameShape (delimiters : Delimiters) (first second : Query) : Prop where
  fields : first.fields = second.fields
  filters : List.Forall₂ (SameFilter delimiters) first.filters second.filters
  sort : first.sort = second.sort
  page : first.page = second.page

/-- The values that come from the arguments of a filter. -/
def filterValues (delimiters : Delimiters) (filter : Filter) : List Value :=
  let predicate := delimiters.split filter.predicate
  (operationNamed predicate.operation).elim [] (·.bound predicate.args)

/-- The values that come from the arguments of all filters, in order. -/
def argumentValues (delimiters : Delimiters) (query : Query) : List Value :=
  query.filters.flatMap (filterValues delimiters)

/-- The texts are equal, the values are as many, and outside the places of the filter arguments
they are the same. -/
structure Indistinct (delimiters : Delimiters) (first second : Query) (supplied : Select)
    (one other : Statement) : Prop where
  text : one.text = other.text
  count : one.params.length = other.params.length
  params : one.params = supplied.valuesThroughConditions ++ argumentValues delimiters first
    ++ supplied.valuesAfterConditions
  otherParams : other.params = supplied.valuesThroughConditions ++ argumentValues delimiters second
    ++ supplied.valuesAfterConditions

variable {policy : Policy} {delimiters : Delimiters} {rules : List PageRule}
variable {first second : Query}

/-! The values of one build -/

private theorem values_of_grant {filter : Filter} {condition : Expr}
    (grants : Grants (standard policy delimiters rules) filter condition) :
    condition.values = filterValues delimiters filter := by
  obtain ⟨operations, column, predicate, make, -, -, parsed, -, registered, made⟩ := grants
  cases parsed
  obtain ⟨operation, found, rfl⟩ := builtin_condition_eq_ok_iff.mp registered
  rw [filterValues, found]
  exact Builtin.values_of_condition made

private theorem values_of_grants {filters : List Filter} {conditions : List Expr}
    (each : List.Forall₂ (Grants (standard policy delimiters rules)) filters conditions) :
    Expr.valuesEach conditions = filters.flatMap (filterValues delimiters) := by
  induction each with
  | nil => rfl
  | cons head _ tail => rw [Expr.valuesEach, values_of_grant head, tail, List.flatMap_cons]

/-- A statement holds the arguments of its query right behind the values of the supplied WHERE
clause, and otherwise the supplied values. -/
theorem values_of_build {context : Context} {query : Query} {supplied : Option Select}
    {built : Select}
    (succeeded : (standard policy delimiters rules).build context query supplied = .ok built) :
    built.values = (supplied.getD .empty).valuesThroughConditions ++ argumentValues delimiters query
      ++ (supplied.getD .empty).valuesAfterConditions := by
  obtain ⟨columns, conditions, terms, -, filtered, -, ran⟩ := build_eq_ok_iff.mp succeeded
  have frame := runAll_frame ran
  have granted := values_of_grants (conditions_eq_ok_iff.mp filtered)
  rw [assembled_eq] at frame
  rw [frame]
  simp only [Select.values, Select.valuesThroughConditions, Select.valuesAfterConditions,
    limitedAs, Expr.valuesEach_append, values_columnNodes, values_orderNodes, granted,
    List.append_nil, List.append_assoc, argumentValues]

/-! Two builds side by side -/

/-- Statements that differ in their values only. -/
def SameButValues (one other : Select) : Prop := one.mapValues .blank = other.mapValues .blank

private theorem filterCondition_alike {filter other : Filter}
    (same : SameFilter delimiters filter other) :
    Alike (fun a b => a.mapValues .blank = b.mapValues .blank)
      ((standard policy delimiters rules).filterCondition filter)
      ((standard policy delimiters rules).filterCondition other) := by
  rw [Policy.filterCondition, Policy.filterCondition, same.field]
  cases (standard policy delimiters rules).filterable.operations? other.field with
  | none => exact .error _
  | some operations =>
    have predicates : Alike (fun a b => a.operation = b.operation ∧ a.args.length = b.args.length)
        ((standard policy delimiters rules).parser filter.predicate)
        ((standard policy delimiters rules).parser other.predicate) :=
      .ok ⟨same.operation, same.count⟩
    refine (Alike.self _).bind fun column _ => ?_
    rintro rfl
    refine predicates.bind fun predicate rival agree => ?_
    rw [agree.1]
    split
    · exact registered_alike rival.operation column agree.2
    · exact .error _

/-- Conditions that differ in their values only do so within a statement too. -/
private theorem assembled_alike (supplied : Select) (columns : List String)
    (terms : List SortTerm) {conditions others : List Expr}
    (hidden : List.Forall₂ (fun a b : Expr => a.mapValues .blank = b.mapValues .blank)
      conditions others) :
    SameButValues (assembled policy supplied columns conditions terms)
      (assembled policy supplied columns others terms) := by
  have same : conditions.map (Expr.mapValues .blank) = others.map (Expr.mapValues .blank) := by
    induction hidden with
    | nil => rfl
    | cons head _ tail => rw [List.map_cons, List.map_cons, head, tail]
  rw [SameButValues, assembled_eq, assembled_eq]
  simp only [Select.mapValues, List.map_append, same]

private theorem sideways_blank : Sideways (Select.mapValues .blank) :=
  ⟨fun _ => rfl, fun _ _ => rfl, fun _ _ => rfl⟩

/-- Extensions keep apart what values keep apart, and nothing more. -/
private theorem runAll_alike (same : SameShape delimiters first second) (context : Context)
    {one other : Select} (hidden : SameButValues one other) :
    Alike SameButValues (Extension.runAll (rules.map PageRule.extension) context first one)
      (Extension.runAll (rules.map PageRule.extension) context second other) := by
  rw [runAll_of_page same.page]
  apply alike_of_map_eq
  rw [← runAll_change sideways_blank, ← runAll_change sideways_blank, hidden]

/-- Under a standard policy the arguments decide neither whether a build succeeds nor its error,
and of the statement only the values. -/
theorem build_alike (policy : Policy) (rules : List PageRule)
    (same : SameShape delimiters first second) (context : Context) (supplied : Option Select) :
    Alike SameButValues ((standard policy delimiters rules).build context first supplied)
      ((standard policy delimiters rules).build context second supplied) := by
  have columns : (standard policy delimiters rules).columns first =
      (standard policy delimiters rules).columns second := by
    simp only [columns_eq, Policy.candidates, Query.fieldsFor, same.fields]
  have terms : (standard policy delimiters rules).sortTerms first =
      (standard policy delimiters rules).sortTerms second := by
    simp only [Policy.sortTerms, same.sort]
  have conditions : Alike (List.Forall₂ _) ((standard policy delimiters rules).conditions first)
      ((standard policy delimiters rules).conditions second) :=
    Alike.mapM (same.filters.imp fun _ _ => filterCondition_alike)
  rw [Policy.build_eq, Policy.build_eq, columns, terms]
  refine (Alike.self _).bind fun selected _ => ?_
  rintro rfl
  refine conditions.bind fun granted others hidden => ?_
  refine (Alike.self _).bind fun sorted _ => ?_
  rintro rfl
  exact runAll_alike same context (assembled_alike _ selected sorted hidden)

/-- Statements that differ in their values only fail with the same error or have the same text, and
as many values. -/
theorem rendering_alike {one other : Select} (hidden : SameButValues one other)
    (dialect : Dialect) :
    Alike (fun a b => a.text = b.text ∧ a.params.length = b.params.length)
      (one.build dialect) (other.build dialect) := by
  have rendered : Alike (fun a b : Fragment => a.mapValues .blank = b.mapValues .blank)
      one.render other.render := by
    apply alike_of_map_eq
    rw [← Select.render_mapValues, ← Select.render_mapValues, hidden]
  rw [Select.build_eq, Select.build_eq]
  refine rendered.map fun fragment rival same => ⟨?_, ?_⟩
  · rw [← Fragment.text_mapValues .blank fragment, same, Fragment.text_mapValues]
  · have counted := congrArg (fun hidden => hidden.params.length) same
    simpa only [Fragment.params_mapValues, List.length_map] using counted

/-- Under any policy with the built-in conditions and extensions, for any delimiters, resolver and
allow-lists, onto any supplied statement and in any dialect: queries that differ only in the texts
of their filter arguments have the same errors and the same SQL, and what differs among the values
is what comes from the arguments. -/
theorem arguments_never_reach_text (policy : Policy) (rules : List PageRule)
    (same : SameShape delimiters first second) (context : Context) (supplied : Option Select) :
    Alike
      (fun one other => ∀ dialect,
        Alike (Indistinct delimiters first second (supplied.getD .empty))
          (one.build dialect) (other.build dialect))
      ((standard policy delimiters rules).build context first supplied)
      ((standard policy delimiters rules).build context second supplied) := by
  have builds := build_alike policy rules same context supplied
  refine builds.imp fun one other built rebuilt hidden dialect => ?_
  refine (rendering_alike hidden dialect).imp fun a b rendered rerendered agree => ?_
  refine { text := agree.1, count := agree.2, params := ?_, otherParams := ?_ }
  · rw [Select.params_of_build rendered, values_of_build built]
  · rw [Select.params_of_build rerendered, values_of_build rebuilt]

def colons : Delimiters := ⟨':', ","⟩

def articles : Policy :=
  ((Policy.new "articles" fun names => .ok names).withDefaultFields ["id", "title"]).withFilters
    (.ofList [("title", ["eq", "contains"])])

def plainQuery : Query where
  filters := [⟨"title", "eq:lean"⟩, ⟨"title", "contains:proof"⟩]

def hostileQuery : Query where
  filters := [⟨"title", "eq:0 OR 1=1; DROP TABLE articles"⟩, ⟨"title", "contains:$1 ?"⟩]

/-- What is built for a query of articles. -/
def articlesFor (query : Query) : Except Error Select :=
  (standard articles colons [.defaultLimit 20]).build {} query

/-- The statement for articles with a title that equals one text and matches another. -/
def titled (title pattern : String) : Select where
  columns := [.columns ["id", "title"]]
  source := some "articles"
  conditions := [.compare "title" .eq (.text title), .like "title" (.text pattern)]
  limit := some 20

private theorem articlesFor_titled {equal similar title part : String}
    (first : colons.split equal = ⟨"eq", [title]⟩)
    (second : colons.split similar = ⟨"contains", [part]⟩) :
    articlesFor { filters := [⟨"title", equal⟩, ⟨"title", similar⟩] } =
      .ok (titled title ("%" ++ part ++ "%")) := by
  have equals : Grants (standard articles colons [.defaultLimit 20]) ⟨"title", equal⟩
      (.compare "title" .eq (.text title)) :=
    ⟨_, "title", _, _, rfl, rfl, congrArg Except.ok first, by dsimp only; decide, rfl, rfl⟩
  have contains : Grants (standard articles colons [.defaultLimit 20]) ⟨"title", similar⟩
      (.like "title" (.text ("%" ++ part ++ "%"))) :=
    ⟨_, "title", _, _, rfl, rfl, congrArg Except.ok second, by dsimp only; decide, rfl, rfl⟩
  exact build_eq_ok_iff.mpr ⟨["id", "title"], _, [], rfl,
    conditions_eq_ok_iff.mpr (.cons equals (.cons contains .nil)), rfl, rfl⟩

private theorem titled_build (title pattern : String) :
    (titled title pattern).build .postgresql =
      .ok ⟨"SELECT id, title FROM articles WHERE title = $1 AND title LIKE $2 LIMIT 20",
        [.text title, .text pattern]⟩ := by
  have rendered : (titled title pattern).render = .ok ⟨[.raw "SELECT ", .raw "id", .raw ", ",
      .raw "title", .raw " FROM ", .raw "articles", .raw " WHERE ", .raw "title = ",
      .param (.text title), .raw " AND ", .raw "title LIKE ", .param (.text pattern),
      .raw (" LIMIT " ++ Text.natural 20)]⟩ := rfl
  rw [Select.build_eq, rendered]
  simp [Except.map, Fragment.text_eq_textFrom, Fragment.textFrom, Fragment.params,
    Fragment.paramsOf, Dialect.placeholder, Dialect.numbered, Text.natural, Text.decimal,
    Text.digitChar]

/-- Both statements are built and have the same text, and the hostile arguments are values. -/
theorem hostile_arguments_stay_values :
    SameShape colons plainQuery hostileQuery ∧
      Alike
        (fun one other => ∀ dialect,
          Alike (Indistinct colons plainQuery hostileQuery .empty)
            (one.build dialect) (other.build dialect))
        (articlesFor plainQuery) (articlesFor hostileQuery) ∧
      ∃ one other, articlesFor plainQuery = .ok one ∧ articlesFor hostileQuery = .ok other ∧
        one.build .postgresql =
          .ok ⟨"SELECT id, title FROM articles WHERE title = $1 AND title LIKE $2 LIMIT 20",
            [.text "lean", .text "%proof%"]⟩ ∧
        other.build .postgresql =
          .ok ⟨"SELECT id, title FROM articles WHERE title = $1 AND title LIKE $2 LIMIT 20",
            [.text "0 OR 1=1; DROP TABLE articles", .text "%$1 ?%"]⟩ := by
  obtain ⟨plain, similar, hostile, marked⟩ :
      colons.split "eq:lean" = ⟨"eq", ["lean"]⟩ ∧
      colons.split "contains:proof" = ⟨"contains", ["proof"]⟩ ∧
      colons.split "eq:0 OR 1=1; DROP TABLE articles" =
        ⟨"eq", ["0 OR 1=1; DROP TABLE articles"]⟩ ∧
      colons.split "contains:$1 ?" = ⟨"contains", ["$1 ?"]⟩ := by
    simp [colons, Delimiters.split, Text.cutAt, Delimiters.splitArgs, Text.splitOn]
  have sameShape : SameShape colons plainQuery hostileQuery := by
    refine ⟨rfl, .cons ⟨rfl, ?_, ?_⟩ (.cons ⟨rfl, ?_, ?_⟩ .nil), rfl, rfl⟩ <;>
      simp [plain, similar, hostile, marked]
  have independent := arguments_never_reach_text articles [.defaultLimit 20] sameShape {} none
  exact ⟨sameShape, independent, _, _, articlesFor_titled plain similar,
    articlesFor_titled hostile marked, titled_build .., titled_build ..⟩

end QueryGate.ArgumentIndependence
