import QueryGate.Proofs.FirstFailure

/-! What the log tells about a build and a rendering. A build logs every stage that it finishes, with
what the stage counted, and if it fails one last line with the error that it returns. How many
stages it logs is told by the first check to fail, whichever it is. An extension is a change of the
statement and logs nothing of its own. A rendering logs what it returns, or nothing. -/
namespace QueryGate.BuildTrace
open FirstFailure Outcomes PolicyStages

variable (policy : Policy) (context : Context) (query : Query) (supplied : Option Select)

/-! Lines -/

/-- A line of the log: its level, and its named values with the message last. -/
abbrev Line := Level × List (String × String)

/-- The line that shows an event. -/
def line (event : Event) : Line := (event.level, event.fields)

/-- A stage that is finished, with the name and the number of what it went through. -/
def stageLine (stage resource counted : String) (count : Nat) : Line :=
  (.debug, [("stage", stage), ("resource", resource), (counted, Text.natural count),
    ("message", "resql.build")])

def selectLine (columns : List String) : Line :=
  stageLine "select" policy.resource "fields" columns.length

def filtersLine : Line := stageLine "filters" policy.resource "count" query.filters.length

def extensionsLine : Line := stageLine "extensions" policy.resource "count" policy.extensions.length

/-- A build that failed, with the text of its error. -/
def rejectionLine (error : Error) : Line :=
  (.warn, [("resource", policy.resource), ("error", error.message), ("message", "resql.rejected")])

/-- A statement that was rendered. -/
def renderingLine (dialect : Dialect) (statement : Statement) : Line :=
  (.debug, [("dialect", dialect.name), ("sql", statement.text),
    ("params", Text.natural statement.params.length), ("message", "resql.query")])

/-! What lines tell -/

/-- The stages of a build that differ in what was logged before them. -/
inductive Stage where
  | columns
  | filters
  | completion

/-- The stage to which a check belongs. -/
def stageOf : Check → Stage
  | .fieldNames | .columns => .columns
  | .entry _ | .name _ | .predicate _ | .operation _ | .registration _ | .arguments _ => .filters
  | .sortNames | .sortColumns | .extension _ => .completion

/-- The lines of the stages that are finished when a stage begins. -/
inductive Reached : Stage → List Line → Prop where
  | columns : Reached .columns []
  | filters {columns : List String} (selects : Selects policy query columns) :
      Reached .filters [selectLine policy columns]
  | completion {columns : List String} (selects : Selects policy query columns) :
      Reached .completion [selectLine policy columns, filtersLine policy query]

/-- The check is the first of the build to fail, and does so with the error. -/
def FailsFirst (check : Check) (error : Error) : Prop :=
  ∃ before after, checks policy query = before ++ check :: after ∧
    (∀ earlier ∈ before, ∀ other, ¬ Fails policy context query supplied earlier other) ∧
    Fails policy context query supplied check error

/-- The lines tell how a build went: through all stages, or up to the one whose check failed. -/
inductive Tells : List Line → Except Error Select → Prop where
  | accepted {columns : List String} (selects : Selects policy query columns)
      (statement : Select) :
      Tells [selectLine policy columns, filtersLine policy query, extensionsLine policy]
        (.ok statement)
  | rejected {check : Check} {error : Error} {lines : List Line}
      (first : FailsFirst policy context query supplied check error)
      (reached : Reached policy query (stageOf check) lines) :
      Tells (lines ++ [rejectionLine policy error]) (.error error)

/-- The lines tell what a rendering returned. A rendering that failed tells nothing. -/
inductive TellsRendering (dialect : Dialect) : List Line → Except RenderError Statement → Prop where
  | rendered (statement : Statement) :
      TellsRendering dialect [renderingLine dialect statement] (.ok statement)
  | failed (error : RenderError) : TellsRendering dialect [] (.error error)

variable {policy context query supplied}

/-! Stages of checks -/

private theorem stage_of_columns :
    ∀ check ∈ [Check.fieldNames, .columns], stageOf check = .columns := by
  simp [stageOf]

private theorem stage_of_filters :
    ∀ check ∈ query.filters.flatMap filterChecks, stageOf check = .filters := by
  intro check member
  obtain ⟨filter, -, among⟩ := List.mem_flatMap.mp member
  simp only [filterChecks, List.mem_cons, List.not_mem_nil, or_false] at among
  rcases among with rfl | rfl | rfl | rfl | rfl | rfl <;> rfl

private theorem stage_of_completion (count : Nat) :
    ∀ check ∈ [Check.sortNames, .sortColumns] ++ (List.range count).map .extension,
      stageOf check = .completion := by
  intro check member
  rcases List.mem_append.mp member with among | among
  · simp only [List.mem_cons, List.not_mem_nil, or_false] at among
    rcases among with rfl | rfl <;> rfl
  · obtain ⟨index, -, rfl⟩ := List.mem_map.mp among
    rfl

/-- A failure among the checks of one stage, when all before them pass, is told as a failure in this
stage. -/
private theorem tells_of_failure {α : Type} (front back : List Check) {middle : List Check}
    (order : checks policy query = front ++ (middle ++ back)) {stage : Stage}
    (belong : ∀ check ∈ middle, stageOf check = stage) {result : Except Error α}
    (passed : ∀ check ∈ front, ∀ other, ¬ Fails policy context query supplied check other)
    (decided : DecidedBy (Fails policy context query supplied) middle result) {error : Error}
    (failed : result = .error error) {lines : List Line}
    (reached : Reached policy query stage lines) :
    Tells policy context query supplied (lines ++ [rejectionLine policy error])
      (.error error) := by
  obtain ⟨before, check, after, rfl, passedToo, fails⟩ := ((decided error).mp failed).split
  have stage_eq : stageOf check = stage := belong check (by simp)
  have first : FailsFirst policy context query supplied check error := by
    refine ⟨front ++ before, after ++ back, by simp [order], ?_, fails⟩
    intro earlier member
    rcases List.mem_append.mp member with member | member
    · exact passed earlier member
    · exact passedToo earlier member
  subst stage_eq
  exact .rejected first reached

/-! Runs -/

private theorem applyFilters_of_ok {conditions : List Expr}
    (filtered : policy.conditions query = .ok conditions) (select : Select) :
    policy.applyFilters query select =
      ⟨[.filtersApplied policy.resource query.filters.length],
        .ok (select.addConditions conditions)⟩ := by
  rw [Policy.applyFilters, filtered]
  rfl

/-- The lines of a build tell how it went and what it returned. -/
theorem run_tells (policy : Policy) (context : Context) (query : Query)
    (supplied : Option Select) :
    Tells policy context query supplied
      ((policy.run context query (supplied.getD .empty)).events.map line)
      (policy.build context query supplied) := by
  have order : checks policy query = [.fieldNames, .columns] ++
      (query.filters.flatMap filterChecks ++
        ([.sortNames, .sortColumns] ++ (List.range policy.extensions.length).map .extension)) := by
    simp only [checks, List.append_assoc]
  have columnsChecked : DecidedBy (Fails policy context query supplied) _ _ := columns_decided
  have filtersChecked : DecidedBy (Fails policy context query supplied) _ _ := conditions_decided
  rw [Policy.build, Policy.run, Policy.assemble]
  cases selected : policy.columns query with
  | error error =>
    exact tells_of_failure [] _ order stage_of_columns (by simp) columnsChecked selected .columns
  | ok columns =>
    have selects : Selects policy query columns := columns_iff_selects.mp selected
    have columnsPass := columnsChecked.passes selected
    rw [Logged.ok_bind, Logged.report_bind]
    cases filtered : policy.conditions query with
    | error error =>
      rw [Policy.applyFilters, filtered]
      exact tells_of_failure _ _ order stage_of_filters columnsPass filtersChecked filtered
        (.filters selects)
    | ok conditions =>
      have bothPass := List.forall_mem_append.mpr ⟨columnsPass, filtersChecked.passes filtered⟩
      have rejects {error : Error} (failed : (policy.sortTerms query >>= fun terms =>
          Extension.runAll policy.extensions context query
            (assembled policy (supplied.getD .empty) columns conditions terms)) = .error error) :=
        tells_of_failure _ [] (by simpa using order) (stage_of_completion _) bothPass
          (completion_decided selected filtered) failed (.completion selects)
      rw [applyFilters_of_ok filtered, Logged.mk_ok_bind]
      -- Sorting and extending end alike when they fail, so only their results tell them apart.
      cases sorted : policy.sortTerms query with
      | error error => exact rejects (by rw [sorted]; rfl)
      | ok terms =>
        rw [Logged.ok_bind, ← assembled]
        cases ran : Extension.runAll policy.extensions context query
          (assembled policy (supplied.getD .empty) columns conditions terms) with
        | error error => exact rejects (by rw [sorted]; exact ran)
        | ok statement => exact .accepted selects statement

/-- The lines of a rendering tell what it returned. -/
theorem buildTraced_tells (statement : Select) (dialect : Dialect) :
    TellsRendering dialect ((statement.buildTraced dialect).events.map line)
      (statement.build dialect) := by
  rw [Select.buildTraced]
  cases statement.build dialect with
  | error error => exact .failed error
  | ok rendered => exact .rendered rendered

theorem buildTraced_result (statement : Select) (dialect : Dialect) :
    (statement.buildTraced dialect).result = statement.build dialect := by
  rw [Select.buildTraced]
  cases statement.build dialect <;> rfl

/-- For any policy, query and supplied statement, the log tells the truth: a build that succeeds logs
its three stages with what they counted and no warning, one that fails logs the stages before the
first check to fail and then the error that it returns, and a rendering logs the statement that it
returns, or nothing if it fails. -/
theorem trace_tells_truth (policy : Policy) (context : Context) (query : Query)
    (supplied : Option Select) :
    Tells policy context query supplied
        ((policy.run context query (supplied.getD .empty)).events.map line)
        (policy.build context query supplied) ∧
      ∀ (statement : Select) (dialect : Dialect),
        (statement.buildTraced dialect).result = statement.build dialect ∧
        TellsRendering dialect ((statement.buildTraced dialect).events.map line)
          (statement.build dialect) :=
  ⟨run_tells policy context query supplied,
    fun statement dialect => ⟨buildTraced_result statement dialect,
      buildTraced_tells statement dialect⟩⟩

end QueryGate.BuildTrace
