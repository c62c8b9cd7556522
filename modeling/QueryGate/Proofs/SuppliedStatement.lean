import QueryGate.Proofs.PagingEffects
import QueryGate.Proofs.PolicyStageProofs

/-! A supplied statement is only extended. A build onto it checks the same things as a build from
nothing, adds the same nodes behind those that are there, and leaves the rest alone but for the
source, the limit and the offset. -/
namespace QueryGate.SuppliedStatement
open Outcomes PolicyStages PageRule

/-- What a build onto a supplied statement leaves, beside what the same build leaves from nothing. -/
structure Extends (rules : List PageRule) (query : Query) (supplied fresh extended : Select) :
    Prop where
  columns : extended.columns = supplied.columns ++ fresh.columns
  conditions : extended.conditions = supplied.conditions ++ fresh.conditions
  ordering : extended.ordering = supplied.ordering ++ fresh.ordering
  joins : extended.joins = supplied.joins
  groups : extended.groups = supplied.groups
  having : extended.having = supplied.having
  distinct : extended.distinct = supplied.distinct
  source : extended.source = fresh.source
  /-- A limit that comes from the page of the query replaces the supplied one. -/
  pageLimit : (∃ rule ∈ rules, rule.AppliesLimit query) → extended.limit = fresh.limit
  /-- Any other limit only fills in for a supplied one. -/
  otherLimit : (¬ ∃ rule ∈ rules, rule.AppliesLimit query) →
    extended.limit = supplied.limit.or fresh.limit
  offset : extended.offset = fresh.offset.or supplied.offset

/-- One effect on two assembled statements, one of them onto a supplied statement. -/
theorem extends_of_effect {policy : Policy} {rules : List PageRule} {query : Query}
    {effect : Effect} (read : effects query rules = .ok effect) (supplied : Select)
    (columns : List String) (conditions : List Expr) (terms : List SortTerm) :
    Extends rules query supplied
      (effect.act (assembled policy .empty columns conditions terms))
      (effect.act (assembled policy supplied columns conditions terms)) := by
  have limits := effects_limit read
  rw [assembled_eq, assembled_eq]
  refine { columns := rfl, conditions := rfl, ordering := rfl, joins := rfl, groups := rfl,
           having := rfl, distinct := rfl, source := rfl, pageLimit := fun applied => ?_,
           otherLimit := fun kept => ?_, offset := ?_ }
  · obtain ⟨limit, written⟩ := Option.isSome_iff_exists.mp (limits.mpr applied)
    simp [Effect.act, written]
  · have unwritten : effect.limit = none := by simpa using mt limits.mp kept
    simp [Effect.act, unwritten, Select.empty]
  · simp [Effect.act, Select.empty]

/-- Under any policy whose extensions are built-in ones, for any resolver, registry, parser and
allow-lists and any query: a build onto a supplied statement fails exactly when the build from
nothing does, with the same error, and otherwise extends what was supplied by what is built from
nothing. -/
theorem supplied_statement_extended {policy : Policy} {rules : List PageRule}
    (paging : policy.extensions = rules.map extension) (context : Context) (query : Query)
    (supplied : Select) :
    Alike (Extends rules query supplied) (policy.build context query)
      (policy.build context query (some supplied)) := by
  rw [Policy.build_eq, Policy.build_eq, paging]
  -- The stages do not see the supplied statement, so they end alike, with the same nodes.
  refine (Alike.self _).bind fun columns _ => ?_
  rintro rfl
  refine (Alike.self _).bind fun conditions _ => ?_
  rintro rfl
  refine (Alike.self _).bind fun terms _ => ?_
  rintro rfl
  -- Only the extensions see it, and their effect is the page's alone.
  rw [runAll_eq_act, runAll_eq_act]
  cases read : effects query rules with
  | error error => exact .error error
  | ok effect => exact .ok (extends_of_effect read supplied columns conditions terms)

def comments : Policy :=
  ((((Policy.new "comments" fun names => .ok names).withDefaultFields ["id", "body"]).allowSorting
    ["id"]).extend (PageRule.limitOffset (some 100) none).extension).extend
      (PageRule.defaultLimit 20).extension

def tenantStatement : Select where
  columns := [.raw "tenant"]
  source := some "drafts"
  joins := [.raw "JOIN posts ON posts.id = post_id"]
  conditions := [.compare "tenant" .eq (.integer 7)]
  ordering := [.orderBy [⟨"tenant", .asc⟩]]
  limit := some 50
  offset := some 5
  distinct := true

def newestComments : Query where
  sort := [⟨"id", .desc⟩]
  page := some { limit := some "10", offset := some "" }

theorem tenant_condition_stays :
    comments.extensions =
        [PageRule.limitOffset (some 100) none, .defaultLimit 20].map PageRule.extension ∧
      comments.build {} newestComments (some tenantStatement) = .ok { tenantStatement with
        columns := [.raw "tenant", .columns ["id", "body"]]
        source := some "comments"
        ordering := [.orderBy [⟨"tenant", .asc⟩], .orderBy [⟨"id", .desc⟩]]
        limit := some 10 } ∧
      Alike (Extends [.limitOffset (some 100) none, .defaultLimit 20] newestComments tenantStatement)
        (comments.build {} newestComments)
        (comments.build {} newestComments (some tenantStatement)) :=
  ⟨rfl, rfl, supplied_statement_extended rfl {} newestComments tenantStatement⟩

end QueryGate.SuppliedStatement
