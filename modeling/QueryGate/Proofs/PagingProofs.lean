import QueryGate.Proofs.PagingEffects

/-! The reach of the built-in extensions. They see the page of a query and the limit and the offset
of a statement; what else a statement holds neither decides what they do nor is changed by it. -/
namespace QueryGate.PageRule
open Outcomes

/-- A change of statements that stays clear of the limit and the offset. -/
structure Sideways (change : Select → Select) : Prop where
  limit : ∀ select, (change select).limit = select.limit
  setLimit : ∀ select limit, change (select.setLimit limit) = (change select).setLimit limit
  setOffset : ∀ select offset, change (select.setOffset offset) = (change select).setOffset offset

variable {change : Select → Select}

private theorem act_limit_change (sideways : Sideways change) (limit fallback : Option UInt64)
    (select : Select) :
    Effect.act { limit, fallback } (change select) =
      change (Effect.act { limit, fallback } select) := by
  cases limit with
  | some limit => exact (sideways.setLimit select limit).symm
  | none =>
    cases fallback with
    | none => exact (Effect.act_nothing _).trans (congrArg change (Effect.act_nothing select).symm)
    | some limit =>
      rw [Effect.act_fallback, Effect.act_fallback, sideways.limit]
      split
      · exact (sideways.setLimit select limit).symm
      · rfl

/-- An effect is the same before and after a sideways change. -/
theorem act_change (sideways : Sideways change) (effect : Effect) (select : Select) :
    effect.act (change select) = change (effect.act select) := by
  obtain ⟨limit, fallback, offset⟩ := effect
  have limited := act_limit_change sideways limit fallback select
  cases offset with
  | none => exact limited
  | some offset =>
    have written (select : Select) : Effect.act { limit, fallback, offset := some offset } select =
        (Effect.act { limit, fallback } select).setOffset offset := rfl
    rw [written, written, limited, sideways.setOffset]

/-- Any list of built-in extensions does the same before and after a sideways change. -/
theorem runAll_change (sideways : Sideways change) (rules : List PageRule) (context : Context)
    (query : Query) (select : Select) :
    Extension.runAll (rules.map extension) context query (change select) =
      (Extension.runAll (rules.map extension) context query select).map change := by
  rw [runAll_eq_act, runAll_eq_act]
  cases effects query rules with
  | error error => rfl
  | ok effect => exact congrArg Except.ok (act_change sideways effect select)

/-- A statement with the limit and the offset of another one. -/
def limitedAs (select other : Select) : Select :=
  { select with limit := other.limit, offset := other.offset }

/-- Built-in extensions change nothing but the limit and the offset. -/
theorem runAll_frame {rules : List PageRule} {context : Context} {query : Query}
    {before after : Select}
    (ran : Extension.runAll (rules.map extension) context query before = .ok after) :
    after = limitedAs before after := by
  rw [runAll_eq_act] at ran
  obtain ⟨effect, -, rfl⟩ := map_eq_ok_iff.mp ran
  rfl

/-- Built-in extensions see no more of a query than its page. -/
theorem runAll_of_page {first second : Query} (page : first.page = second.page)
    (rules : List PageRule) (context : Context) (select : Select) :
    Extension.runAll (rules.map extension) context first select =
      Extension.runAll (rules.map extension) context second select := by
  have same : effects first rules = effects second rules := by
    induction rules with
    | nil => rfl
    | cons rule rest later => cases rule <;> simp only [effects, effect, page, later]
  rw [runAll_eq_act, runAll_eq_act, same]

end QueryGate.PageRule
