import QueryGate.Extension.Paging
import QueryGate.Proofs.Outcomes

/-! What the built-in extensions do, apart from the statement that they do it to. The page of a
query decides whether an extension fails and what it writes, so a list of extensions has one effect
for each query, and a run is this effect on the statement it starts from. -/
namespace QueryGate.PageRule
open Outcomes

/-- A change of the limit and the offset of a statement. -/
structure Effect where
  /-- A limit in place of the one before it. -/
  limit : Option UInt64 := none
  /-- A limit for a statement that has none. -/
  fallback : Option UInt64 := none
  /-- An offset in place of the one before it. -/
  offset : Option UInt64 := none

namespace Effect

def act (effect : Effect) (select : Select) : Select :=
  { select with
    limit := effect.limit.or (select.limit.or effect.fallback)
    offset := effect.offset.or select.offset }

/-- One effect after another: the last limit and offset count, and the first fallback. -/
def andThen (first second : Effect) : Effect where
  limit := second.limit.or first.limit
  fallback := first.fallback.or second.fallback
  offset := second.offset.or first.offset

theorem act_nothing (select : Select) : ({} : Effect).act select = select := by
  simp [act]

/-- A fallback is written only where there is no limit yet. -/
theorem act_fallback (limit : UInt64) (select : Select) :
    act { fallback := some limit } select =
      if select.limit.isNone then select.setLimit limit else select := by
  obtain ⟨_, _, _, _, _, _, _, present, _, _⟩ := select
  cases present <;> rfl

theorem act_andThen (first second : Effect) (select : Select) :
    (first.andThen second).act select = second.act (first.act select) := by
  simp [act, andThen, Option.or_assoc]

end Effect

/-- The effect of a page by limit and offset. -/
def offsetEffect (maxLimit maxOffset : Option UInt64) (page : Page) : Except PageError Effect :=
  readLimit maxLimit page >>= fun limit =>
    (readOffset maxOffset limit page).map fun offset => { limit, offset }

/-- The effect of a page by limit and number. -/
def numberEffect (maxLimit : Option UInt64) (page : Page) : Except PageError Effect :=
  readLimit maxLimit page >>= fun
    | none => .ok {}
    | some limit => (numberOffset limit page).map fun offset => { limit := some limit, offset }

/-- The effect of a rule on any statement. -/
def effect (query : Query) : PageRule → Except Error Effect
  | defaultLimit limit => .ok { fallback := some limit }
  | limitOffset maxLimit maxOffset =>
    match query.page with
    | none => .ok {}
    | some page => (offsetEffect maxLimit maxOffset page).mapError .page
  | limitNumber maxLimit =>
    match query.page with
    | none => .ok {}
    | some page => (numberEffect maxLimit page).mapError .page

/-- The effect of rules one after the other. -/
def effects (query : Query) : List PageRule → Except Error Effect
  | [] => .ok {}
  | rule :: rest => rule.effect query >>= fun first => (effects query rest).map first.andThen

private theorem finish_eq_act (select : Select) (limit : Option UInt64)
    (offset : Except PageError (Option UInt64)) :
    (finish (Effect.act { limit } select) offset).toExcept =
      ((offset.map fun offset => { limit, offset }).mapError .page).map fun effect : Effect =>
        effect.act select := by
  cases offset with
  | error error => rfl
  | ok offset =>
    cases offset with
    | none => rfl
    | some offset => rfl

private theorem applyOffset_eq_act (maxLimit maxOffset : Option UInt64) (page : Page)
    (select : Select) :
    (applyOffset maxLimit maxOffset page select).toExcept =
      ((offsetEffect maxLimit maxOffset page).mapError .page).map fun effect =>
        effect.act select := by
  rw [applyOffset, offsetEffect]
  cases readLimit maxLimit page with
  | error error => rfl
  | ok limit =>
    have finished := finish_eq_act select limit (readOffset maxOffset limit page)
    cases limit with
    | none =>
      have unlimited : Effect.act { limit := none } select = select := Effect.act_nothing select
      rw [unlimited] at finished
      exact finished
    | some limit =>
      have limited : Effect.act { limit := some limit } select = select.setLimit limit := rfl
      rw [limited] at finished
      exact finished

private theorem applyNumber_eq_act (maxLimit : Option UInt64) (page : Page) (select : Select) :
    (applyNumber maxLimit page select).toExcept =
      ((numberEffect maxLimit page).mapError .page).map fun effect => effect.act select := by
  rw [applyNumber, numberEffect]
  cases readLimit maxLimit page with
  | error error => rfl
  | ok limit =>
    cases limit with
    | none => exact congrArg Except.ok (Effect.act_nothing select).symm
    | some limit => exact finish_eq_act select (some limit) (numberOffset limit page)

private theorem page_of_mapError {result : Except PageError Effect} {error : Error}
    (failed : result.mapError Error.page = .error error) : ∃ fault, error = .page fault := by
  cases result with
  | error fault =>
    cases failed
    exact ⟨fault, rfl⟩
  | ok effect => cases failed

private theorem page_of_effect {rule : PageRule} {query : Query} {error : Error}
    (failed : rule.effect query = .error error) : ∃ fault, error = .page fault := by
  cases rule with
  | defaultLimit limit => cases failed
  | limitOffset maxLimit maxOffset =>
    rw [effect] at failed
    cases paged : query.page with
    | none => simp [paged] at failed
    | some page =>
      rw [paged] at failed
      exact page_of_mapError failed
  | limitNumber maxLimit =>
    rw [effect] at failed
    cases paged : query.page with
    | none => simp [paged] at failed
    | some page =>
      rw [paged] at failed
      exact page_of_mapError failed

/-- Built-in extensions fail for the page of the query only. -/
theorem page_of_effects {rules : List PageRule} {query : Query} {error : Error}
    (failed : effects query rules = .error error) : ∃ fault, error = .page fault := by
  induction rules with
  | nil => cases failed
  | cons rule rest later =>
    rw [effects, bind_eq_error_iff] at failed
    rcases failed with failed | ⟨first, -, failed⟩
    · exact page_of_effect failed
    · exact later (map_eq_error_iff.mp failed)

/-- A built-in extension has its effect, whatever statement it runs on. -/
theorem extension_eq_act (rule : PageRule) (context : Context) (query : Query) (select : Select) :
    (rule.extension context query select).toExcept =
      (rule.effect query).map fun effect => effect.act select := by
  have unpaged : Outcome.toExcept (.done select) =
      (Except.ok ({} : Effect)).map fun effect => effect.act select :=
    congrArg Except.ok (Effect.act_nothing select).symm
  cases rule with
  | defaultLimit limit => exact congrArg Except.ok (Effect.act_fallback limit select).symm
  | limitOffset maxLimit maxOffset =>
    rw [extension, effect]
    cases query.page with
    | none => exact unpaged
    | some page => exact applyOffset_eq_act maxLimit maxOffset page select
  | limitNumber maxLimit =>
    rw [extension, effect]
    cases query.page with
    | none => exact unpaged
    | some page => exact applyNumber_eq_act maxLimit page select

/-- A run of built-in extensions is one effect on the statement that it starts from. -/
theorem runAll_eq_act (rules : List PageRule) (context : Context) (query : Query)
    (select : Select) :
    Extension.runAll (rules.map extension) context query select =
      (effects query rules).map fun effect => effect.act select := by
  induction rules generalizing select with
  | nil => exact congrArg Except.ok (Effect.act_nothing select).symm
  | cons rule rest later =>
    -- The others run on what the first one leaves, but their effects do not depend on it.
    rw [Extension.runAll, List.map_cons, List.foldlM_cons, extension_eq_act, effects, map_bind,
      bind_map]
    refine bind_congr fun first => ?_
    rw [← Extension.runAll, later]
    cases effects query rest with
    | error error => rfl
    | ok others => exact congrArg Except.ok (Effect.act_andThen first others select).symm

/-! Limits of pages -/

/-- The rule reads pages, and the page of the query gives a limit. -/
def AppliesLimit (query : Query) : PageRule → Prop
  | defaultLimit _ => False
  | limitOffset _ _ | limitNumber _ => ∃ page, query.page = some page ∧ given page.limit ≠ none

private theorem readLimit_isSome {maximum : Option UInt64} {page : Page} {limit : Option UInt64}
    (read : readLimit maximum page = .ok limit) : limit.isSome ↔ given page.limit ≠ none := by
  rw [readLimit] at read
  cases found : given page.limit with
  | none =>
    rw [found] at read
    cases read
    simp
  | some text =>
    simp only [found] at read
    cases number : readNumber text with
    | none => simp [number] at read
    | some limit =>
      simp only [number] at read
      obtain ⟨bounded, -, rfl⟩ := map_eq_ok_iff.mp read
      simp

private theorem effect_limit {rule : PageRule} {query : Query} {result : Effect}
    (read : rule.effect query = .ok result) :
    result.limit.isSome ↔ rule.AppliesLimit query := by
  cases rule with
  | defaultLimit limit =>
    cases read
    simp [AppliesLimit]
  | limitOffset maxLimit maxOffset =>
    rw [effect] at read
    cases paged : query.page with
    | none =>
      rw [paged] at read
      cases read
      simp [AppliesLimit, paged]
    | some page =>
      simp only [paged, offsetEffect, mapError_eq_ok_iff, bind_eq_ok_iff, map_eq_ok_iff] at read
      obtain ⟨limit, limited, offset, -, rfl⟩ := read
      simpa [AppliesLimit, paged] using readLimit_isSome limited
  | limitNumber maxLimit =>
    rw [effect] at read
    cases paged : query.page with
    | none =>
      rw [paged] at read
      cases read
      simp [AppliesLimit, paged]
    | some page =>
      simp only [paged, numberEffect, mapError_eq_ok_iff, bind_eq_ok_iff] at read
      obtain ⟨limit, limited, rest⟩ := read
      have given := readLimit_isSome limited
      cases limit with
      | none =>
        cases rest
        simpa [AppliesLimit, paged] using given
      | some limit =>
        obtain ⟨offset, -, rfl⟩ := map_eq_ok_iff.mp rest
        simpa [AppliesLimit, paged] using given

/-- Rules that succeed write a limit exactly when one of them reads it from the page. -/
theorem effects_limit {rules : List PageRule} {query : Query} {result : Effect}
    (read : effects query rules = .ok result) :
    result.limit.isSome ↔ ∃ rule ∈ rules, rule.AppliesLimit query := by
  induction rules generalizing result with
  | nil =>
    cases read
    simp
  | cons rule rest later =>
    simp only [effects, bind_eq_ok_iff, map_eq_ok_iff] at read
    obtain ⟨first, firstRead, others, othersRead, rfl⟩ := read
    rw [List.exists_mem_cons_iff, ← effect_limit firstRead, ← later othersRead]
    simp [Effect.andThen, or_comm]

end QueryGate.PageRule
