import Mathlib.Data.List.Forall2

/-! Results that may be errors. A successful sequence is opened at its parts, a failed one is traced
to the first of the checks behind it, and two results are alike when both fail with the same error
or both succeed with related values. -/
namespace QueryGate.Outcomes

universe u v w

variable {ε : Type u} {α β γ δ : Type v}

theorem bind_eq_ok_iff {result : Except ε α} {next : α → Except ε β} {value : β} :
    (result >>= next) = .ok value ↔ ∃ middle, result = .ok middle ∧ next middle = .ok value := by
  cases result with
  | error error => simp [bind, Except.bind]
  | ok middle => simp [bind, Except.bind]

theorem bind_eq_error_iff {result : Except ε α} {next : α → Except ε β} {error : ε} :
    (result >>= next) = .error error ↔
      result = .error error ∨ ∃ middle, result = .ok middle ∧ next middle = .error error := by
  cases result with
  | error error => simp [bind, Except.bind]
  | ok middle => simp [bind, Except.bind]

theorem exists_error_iff {result : Except ε α} :
    (∃ error, result = .error error) ↔ ∀ value, result ≠ .ok value := by
  cases result <;> simp

theorem map_eq_ok_iff {result : Except ε α} {change : α → β} {value : β} :
    result.map change = .ok value ↔ ∃ middle, result = .ok middle ∧ change middle = value := by
  cases result with
  | error error => simp [Except.map]
  | ok middle => simp [Except.map]

theorem map_eq_error_iff {result : Except ε α} {change : α → β} {error : ε} :
    result.map change = .error error ↔ result = .error error := by
  cases result with
  | error error => simp [Except.map]
  | ok middle => simp [Except.map]

theorem mapError_eq_ok_iff {ε' : Type u} {result : Except ε α} {change : ε → ε'} {value : α} :
    result.mapError change = .ok value ↔ result = .ok value := by
  cases result <;> simp [Except.mapError]

theorem map_bind {result : Except ε α} {change : α → β} {next : β → Except ε γ} :
    (result.map change >>= next) = result >>= fun value => next (change value) := by
  cases result <;> rfl

theorem bind_map {result : Except ε α} {next : α → Except ε β} {change : β → γ} :
    (result >>= next).map change = result >>= fun value => (next value).map change := by
  cases result <;> rfl

/-- A successful pass over a list succeeded at every element, in order. -/
theorem mapM_eq_ok_iff {visit : α → Except ε β} {inputs : List α} {outputs : List β} :
    inputs.mapM visit = .ok outputs ↔
      List.Forall₂ (fun input output => visit input = .ok output) inputs outputs := by
  induction inputs generalizing outputs with
  | nil => simp [pure, Except.pure, eq_comm]
  | cons input rest later =>
    rw [List.mapM_cons, bind_eq_ok_iff, List.forall₂_cons_left_iff]
    simp only [bind_eq_ok_iff, later, pure, Except.pure, Except.ok.injEq]
    constructor
    · rintro ⟨output, visited, outputs, others, rfl⟩
      exact ⟨output, outputs, visited, others, rfl⟩
    · rintro ⟨output, outputs, visited, others, rfl⟩
      exact ⟨output, visited, outputs, others, rfl⟩

/-- Both results are the same error, or both are values and these are related. -/
inductive Alike (related : α → β → Prop) : Except ε α → Except ε β → Prop where
  | error (error : ε) : Alike related (.error error) (.error error)
  | ok {first : α} {second : β} (values : related first second) :
      Alike related (.ok first) (.ok second)

namespace Alike

variable {related : α → β → Prop} {first : Except ε α} {second : Except ε β}

theorem self (result : Except ε α) : Alike Eq result result := by
  cases result with
  | error error => exact .error error
  | ok value => exact .ok rfl

/-- Another relation holds too if it follows for the values that the results really have. -/
theorem imp {other : α → β → Prop} (alike : Alike related first second)
    (follows : ∀ a b, first = .ok a → second = .ok b → related a b → other a b) :
    Alike other first second := by
  cases alike with
  | error error => exact .error error
  | ok values => exact .ok (follows _ _ rfl rfl values)

/-- Continuations that keep related values alike keep whole sequences alike. -/
theorem bind {later : γ → δ → Prop} {firstNext : α → Except ε γ} {secondNext : β → Except ε δ}
    (alike : Alike related first second)
    (next : ∀ a b, related a b → Alike later (firstNext a) (secondNext b)) :
    Alike later (first >>= firstNext) (second >>= secondNext) := by
  cases alike with
  | error error => exact .error error
  | ok values => exact next _ _ values

theorem map {later : γ → δ → Prop} {view : α → γ} {otherView : β → δ}
    (alike : Alike related first second)
    (views : ∀ a b, related a b → later (view a) (otherView b)) :
    Alike later (first.map view) (second.map otherView) := by
  cases alike with
  | error error => exact .error error
  | ok values => exact .ok (views _ _ values)

/-- Passes over two lists are alike if they are alike at every pair of elements. -/
theorem mapM {α' β' : Type w} {firsts : List α'} {seconds : List β'}
    {firstVisit : α' → Except ε α} {secondVisit : β' → Except ε β}
    (visits : List.Forall₂ (fun a b => Alike related (firstVisit a) (secondVisit b))
      firsts seconds) :
    Alike (List.Forall₂ related) (firsts.mapM firstVisit) (seconds.mapM secondVisit) := by
  induction visits with
  | nil => exact .ok .nil
  | cons head _ tail =>
    rw [List.mapM_cons, List.mapM_cons]
    refine head.bind fun a b values => tail.bind fun as bs others => ?_
    exact .ok (.cons values others)

end Alike

/-- Results that agree once their values are mapped differ at most in what the maps forget. -/
theorem alike_of_map_eq {view : α → γ} {otherView : β → γ} {first : Except ε α}
    {second : Except ε β} (same : first.map view = second.map otherView) :
    Alike (fun a b => view a = otherView b) first second := by
  cases first with
  | error error =>
    cases second with
    | error other => cases same; exact .error _
    | ok value => cases same
  | ok value =>
    cases second with
    | error other => cases same
    | ok other => exact .ok (Except.ok.inj same)

/-- The error of the first check that fails, in a list of checks made in order. -/
inductive FirstFails {κ : Type w} (fails : κ → ε → Prop) : List κ → ε → Prop where
  | here {check : κ} {rest : List κ} {error : ε} (failed : fails check error) :
      FirstFails fails (check :: rest) error
  | later {check : κ} {rest : List κ} {error : ε} (passed : ∀ error, ¬ fails check error)
      (failed : FirstFails fails rest error) : FirstFails fails (check :: rest) error

section FirstFails

variable {κ : Type w} {fails : κ → ε → Prop}

theorem firstFails_append_iff {first second : List κ} {error : ε} :
    FirstFails fails (first ++ second) error ↔ FirstFails fails first error ∨
      ((∀ check ∈ first, ∀ error, ¬ fails check error) ∧ FirstFails fails second error) := by
  induction first with
  | nil =>
    constructor
    · exact fun failed => .inr ⟨List.forall_mem_nil _, failed⟩
    · rintro (impossible | ⟨-, failed⟩)
      · cases impossible
      · exact failed
  | cons check rest tail =>
    rw [List.cons_append, List.forall_mem_cons]
    constructor
    · intro found
      cases found with
      | here failed => exact .inl (.here failed)
      | later passed failed =>
        rcases tail.mp failed with failed | ⟨others, failed⟩
        · exact .inl (.later passed failed)
        · exact .inr ⟨⟨passed, others⟩, failed⟩
    · rintro (found | ⟨⟨passed, others⟩, failed⟩)
      · cases found with
        | here failed => exact .here failed
        | later passed failed => exact .later passed (tail.mpr (.inl failed))
      · exact .later passed (tail.mpr (.inr ⟨others, failed⟩))

theorem FirstFails.failing {checks : List κ} {error : ε} (found : FirstFails fails checks error) :
    ∃ check ∈ checks, fails check error := by
  induction found with
  | here failed => exact ⟨_, List.mem_cons_self, failed⟩
  | later _ _ tail =>
    obtain ⟨check, member, failed⟩ := tail
    exact ⟨check, List.mem_cons_of_mem _ member, failed⟩

/-- The first check to fail stands behind checks that pass. -/
theorem FirstFails.split {checks : List κ} {error : ε} (found : FirstFails fails checks error) :
    ∃ before check after, checks = before ++ check :: after ∧
      (∀ earlier ∈ before, ∀ other, ¬ fails earlier other) ∧ fails check error := by
  induction found with
  | here failed => exact ⟨[], _, _, rfl, by simp, failed⟩
  | later passed _ tail =>
    obtain ⟨before, check, after, rfl, passedToo, failed⟩ := tail
    exact ⟨_ :: before, check, after, rfl, List.forall_mem_cons.mpr ⟨passed, passedToo⟩, failed⟩

/-- A failing check behind checks that pass is the first to fail. -/
theorem FirstFails.of_split {before after : List κ} {check : κ} {error : ε}
    (passed : ∀ earlier ∈ before, ∀ other, ¬ fails earlier other) (failed : fails check error) :
    FirstFails fails (before ++ check :: after) error :=
  firstFails_append_iff.mpr (.inr ⟨passed, .here failed⟩)

/-- Where some check fails, one is the first to. -/
theorem exists_firstFails_iff {checks : List κ} :
    (∃ error, FirstFails fails checks error) ↔ ∃ check ∈ checks, ∃ error, fails check error := by
  constructor
  · rintro ⟨error, found⟩
    obtain ⟨check, member, failed⟩ := found.failing
    exact ⟨check, member, error, failed⟩
  · rintro ⟨failing, member, error, failed⟩
    induction checks with
    | nil => cases member
    | cons check rest tail =>
      by_cases first : ∃ error, fails check error
      · obtain ⟨error, failed⟩ := first
        exact ⟨error, .here failed⟩
      · have passed : ∀ error, ¬ fails check error := not_exists.mp first
        rcases List.mem_cons.mp member with rfl | member
        · exact absurd failed (passed error)
        · obtain ⟨error, failed⟩ := tail member
          exact ⟨error, .later passed failed⟩

/-- The result is an error exactly when some check fails, and then that of the first one. -/
def DecidedBy (fails : κ → ε → Prop) (checks : List κ) (result : Except ε α) : Prop :=
  ∀ error, result = .error error ↔ FirstFails fails checks error

namespace DecidedBy

variable {check : κ} {checks : List κ} {result : Except ε α}

theorem ok (value : α) : DecidedBy fails [] (.ok value : Except ε α) := by
  intro error
  constructor <;> rintro ⟨⟩

theorem single (same : ∀ error, result = .error error ↔ fails check error) :
    DecidedBy fails [check] result := by
  intro error
  rw [same]
  constructor
  · exact .here
  · rintro (failed | ⟨_, ⟨⟩⟩)
    exact failed

/-- A check that fails ends the sequence. -/
theorem failed {error : ε} (same : ∀ other, fails check other ↔ error = other) :
    DecidedBy fails (check :: checks) (.error error : Except ε α) := by
  intro other
  rw [Except.error.injEq, ← same]
  constructor
  · exact .here
  · rintro (failed | ⟨passed, _⟩)
    · exact failed
    · exact absurd ((same error).mpr rfl) (passed error)

/-- A check that passes leaves the result to those after it. -/
theorem passed (passed : ∀ error, ¬ fails check error) (decided : DecidedBy fails checks result) :
    DecidedBy fails (check :: checks) result := by
  intro error
  rw [decided error]
  constructor
  · exact .later passed
  · rintro (failed | ⟨_, failed⟩)
    · exact absurd failed (passed error)
    · exact failed

/-- A value means that all checks pass. -/
theorem passes {value : α} (decided : DecidedBy fails checks result)
    (succeeded : result = .ok value) : ∀ check ∈ checks, ∀ error, ¬ fails check error := by
  intro check member error failed
  obtain ⟨other, found⟩ := exists_firstFails_iff.mpr ⟨check, member, error, failed⟩
  cases succeeded.symm.trans ((decided other).mpr found)

theorem bind {first second : List κ} {next : α → Except ε β}
    (decided : DecidedBy fails first result)
    (rest : ∀ value, result = .ok value → DecidedBy fails second (next value)) :
    DecidedBy fails (first ++ second) (result >>= next) := by
  intro error
  rw [firstFails_append_iff]
  cases result with
  | error fault =>
    have broken := exists_firstFails_iff.mp ⟨fault, (decided fault).mp rfl⟩
    constructor
    · rintro ⟨⟩
      exact .inl ((decided _).mp rfl)
    · rintro (found | ⟨passed, -⟩)
      · cases (decided error).mpr found
        rfl
      · obtain ⟨check, member, other, failed⟩ := broken
        exact absurd failed (passed check member other)
  | ok value =>
    constructor
    · exact fun failed => .inr ⟨decided.passes rfl, (rest value rfl error).mp failed⟩
    · rintro (impossible | ⟨-, found⟩)
      · cases (decided error).mpr impossible
      · exact (rest value rfl error).mpr found

/-- One check, and the others on what it lets through. -/
theorem step {next : α → Except ε β} (same : ∀ error, result = .error error ↔ fails check error)
    (rest : ∀ value, result = .ok value → DecidedBy fails checks (next value)) :
    DecidedBy fails (check :: checks) (result >>= next) := bind (single same) rest

theorem map (decided : DecidedBy fails checks result) (change : α → β) :
    DecidedBy fails checks (result.map change) := by
  intro error
  rw [← decided error, map_eq_error_iff]

theorem mapM_mem {ι : Type v} {checksOf : ι → List κ} {visit : ι → Except ε α} (inputs : List ι)
    (each : ∀ input ∈ inputs, DecidedBy fails (checksOf input) (visit input)) :
    DecidedBy fails (inputs.flatMap checksOf) (inputs.mapM visit) := by
  induction inputs with
  | nil => exact .ok []
  | cons input rest later =>
    rw [List.mapM_cons, List.flatMap_cons]
    obtain ⟨head, tail⟩ := List.forall_mem_cons.mp each
    exact head.bind fun output _ => (later tail).map (output :: ·)

theorem mapM {ι : Type v} {checksOf : ι → List κ} {visit : ι → Except ε α}
    (each : ∀ input, DecidedBy fails (checksOf input) (visit input)) (inputs : List ι) :
    DecidedBy fails (inputs.flatMap checksOf) (inputs.mapM visit) :=
  mapM_mem inputs fun input _ => each input

end DecidedBy

end FirstFails

/-- A pass over a list is decided by the elements in their order. -/
theorem mapM_decided (visit : α → Except ε β) (inputs : List α) :
    DecidedBy (fun input error => visit input = .error error) inputs (inputs.mapM visit) := by
  have each (input : α) : DecidedBy (fun input error => visit input = .error error) [input]
      (visit input) := .single fun _ => .rfl
  have decided := DecidedBy.mapM each inputs
  rwa [List.flatMap_singleton'] at decided

/-- A pass over a list that fails does so at some element. -/
theorem failing_of_mapM {visit : α → Except ε β} {inputs : List α} {error : ε}
    (failed : inputs.mapM visit = .error error) : ∃ input ∈ inputs, visit input = .error error :=
  ((mapM_decided visit inputs error).mp failed).failing

end QueryGate.Outcomes
