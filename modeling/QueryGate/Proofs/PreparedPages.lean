import QueryGate.Proofs.NumberedPages
import QueryGate.Proofs.PolicyStageProofs

/-! Numbered pages on statements that a caller has prepared. The limit of the page replaces whatever
limit was there, and so does the offset of every page but the first, which writes none. A prepared
offset therefore shows through on the first page and on no other. -/
namespace QueryGate.PreparedPages
open Outcomes PageRule PolicyStages

/-- The rules page by number: one of them does, and none pages by offset. -/
structure ByNumber (rules : List PageRule) : Prop where
  pages : ∃ maximum, limitNumber maximum ∈ rules
  only : ∀ maxLimit maxOffset, limitOffset maxLimit maxOffset ∉ rules

variable {policy : Policy} {rules : List PageRule} {query : Query} {text : String}
  {limit number : UInt64} {supplied statement : Select}

/-! What the rules write -/

/-- A rule for numbered pages that succeeds writes the limit and the number of the page, whatever its
maximum. -/
private theorem limitNumber_writes {maximum : Option UInt64} {result : Effect}
    (gives : Gives query Page.limit text) (denotes : Denotes text limit)
    (asked : PageNumber query number)
    (read : (limitNumber maximum).effect query = .ok result) :
    result = { limit := some limit, offset := pageOffset limit number } := by
  rcases limitNumber_eq_ok_iff.mp read with ⟨ungiven, -⟩ | ⟨bounded, other, asks, rfl⟩
  · exact absurd gives (ungiven text)
  · have sameNumber : other = number := asks.number.unique asked
    cases asks.limit with
    | number givesToo denotesToo =>
      cases gives.unique givesToo
      have sameLimit : bounded = limit := denotesToo.unique denotes
      rw [sameLimit, sameNumber]

/-- Rules that page by number write the same page, however many they are, or nothing if there is
none. A default limit writes nothing that stays beside it. -/
private theorem effects_writes (gives : Gives query Page.limit text)
    (denotes : Denotes text limit) (asked : PageNumber query number)
    (only : ∀ maxLimit maxOffset, limitOffset maxLimit maxOffset ∉ rules) {result : Effect}
    (read : effects query rules = .ok result) :
    (result.limit = some limit ∧ result.offset = pageOffset limit number) ∨
      (result.limit = none ∧ result.offset = none ∧ ∀ maximum, limitNumber maximum ∉ rules) := by
  induction rules generalizing result with
  | nil =>
    cases read
    exact .inr ⟨rfl, rfl, fun _ => List.not_mem_nil⟩
  | cons rule rest later =>
    simp only [effects, bind_eq_ok_iff, map_eq_ok_iff] at read
    obtain ⟨first, firstRead, others, othersRead, rfl⟩ := read
    have tail := later
      (fun maxLimit maxOffset member => only maxLimit maxOffset (List.mem_cons_of_mem _ member))
      othersRead
    cases rule with
    | limitOffset maxLimit maxOffset => exact absurd List.mem_cons_self (only maxLimit maxOffset)
    | defaultLimit fallback =>
      cases firstRead
      rcases tail with ⟨written, placed⟩ | ⟨unwritten, unplaced, absent⟩
      · exact .inl ⟨by simp [Effect.andThen, written], by simp [Effect.andThen, placed]⟩
      · refine .inr ⟨by simp [Effect.andThen, unwritten], by simp [Effect.andThen, unplaced], ?_⟩
        intro maximum member
        rcases List.mem_cons.mp member with impossible | member
        · cases impossible
        · exact absent maximum member
    | limitNumber maximum =>
      obtain rfl := limitNumber_writes gives denotes asked firstRead
      left
      rcases tail with ⟨written, placed⟩ | ⟨unwritten, unplaced, -⟩
      · exact ⟨by simp [Effect.andThen, written], by simp [Effect.andThen, placed]⟩
      · exact ⟨by simp [Effect.andThen, unwritten], by simp [Effect.andThen, unplaced]⟩

/-- A build onto a prepared statement tells what the builds onto all statements give that differ from
it in the limit and the offset only: the limit is gone, and the offset stays where the page writes
none. -/
theorem build_reprepared (paging : policy.extensions = rules.map extension)
    (byNumber : ByNumber rules) (gives : Gives query Page.limit text)
    (denotes : Denotes text limit) (asked : PageNumber query number) {context : Context}
    (built : policy.build context query (some supplied) = .ok statement)
    (preparedLimit preparedOffset : Option UInt64) :
    policy.build context query
        (some { supplied with limit := preparedLimit, offset := preparedOffset }) =
      .ok { statement with
        limit := some limit
        offset := (pageOffset limit number).or preparedOffset } := by
  obtain ⟨columns, conditions, terms, selected, filtered, sorted, ran⟩ := build_eq_ok_iff.mp built
  rw [paging, runAll_eq_act, map_eq_ok_iff] at ran
  obtain ⟨effect, read, rfl⟩ := ran
  have writes : effect.limit = some limit ∧ effect.offset = pageOffset limit number := by
    rcases effects_writes gives denotes asked byNumber.only read with writes | ⟨-, -, absent⟩
    · exact writes
    · obtain ⟨maximum, member⟩ := byNumber.pages
      exact absurd member (absent maximum)
  refine build_eq_ok_iff.mpr ⟨columns, conditions, terms, selected, filtered, sorted, ?_⟩
  rw [paging, runAll_eq_act, read, assembled_eq, assembled_eq]
  simp [Except.map, Effect.act, writes]

/-! Where the page starts -/

/-- Every page but the first writes its offset, so that nothing shows through. -/
private theorem pageOffset_or_iff {first second : Option UInt64} :
    (pageOffset limit number).or first = (pageOffset limit number).or second ↔
      (number = 1 → first = second) := by
  rw [pageOffset]
  by_cases one : number = 1
  · simp [one]
  · simp [one]

private theorem firstRow_in_place_iff (small : limit.toNat < 2 ^ 32)
    (asked : PageNumber query number) {offset : Option UInt64} :
    (((pageOffset limit number).or offset).getD 0).toNat = limit.toNat * (number.toNat - 1) ↔
      (number = 1 → (offset.getD 0).toNat = 0) := by
  obtain ⟨positive, few⟩ := asked.bounds
  have exact_place := pageOffset_toNat small positive few
  by_cases one : number = 1
  · subst one
    simp [pageOffset]
  · have written : (pageOffset limit number).or offset = pageOffset limit number := by
      rw [pageOffset, if_neg one]
      rfl
    rw [written]
    exact iff_of_true exact_place fun first => absurd first one

/-- On a resource whose built-in extensions page by number and by nothing else, a build onto any
prepared statement writes the limit of the page. The page starts at its place, the exact product,
exactly when it is not the first one or the prepared statement starts at the first row; and
statements that were prepared alike but for the limit and the offset lead to the same one exactly
when the page is not the first one or their offsets agree. -/
theorem prepared_page_in_place_iff (paging : policy.extensions = rules.map extension)
    (byNumber : ByNumber rules) (gives : Gives query Page.limit text)
    (denotes : Denotes text limit) (asked : PageNumber query number) {context : Context}
    (built : policy.build context query (some supplied) = .ok statement) :
    statement.limit = some limit ∧
      (firstRow statement = limit.toNat * (number.toNat - 1) ↔
        (number = 1 → firstRow supplied = 0)) ∧
      ∀ preparedLimit preparedOffset,
        policy.build context query
            (some { supplied with limit := preparedLimit, offset := preparedOffset }) =
          policy.build context query (some supplied) ↔
        (number = 1 → preparedOffset = supplied.offset) := by
  have rebuilt := build_reprepared paging byNumber gives denotes asked built
  have paged : statement = { statement with
      limit := some limit
      offset := (pageOffset limit number).or supplied.offset } :=
    Except.ok.inj (built.symm.trans (rebuilt supplied.limit supplied.offset))
  have limited : statement.limit = some limit := congrArg Select.limit paged
  have placed : statement.offset = (pageOffset limit number).or supplied.offset :=
    congrArg Select.offset paged
  refine ⟨limited, ?_, fun preparedLimit preparedOffset => ?_⟩
  · rw [firstRow, placed]
    exact firstRow_in_place_iff denotes.small asked
  · rw [rebuilt preparedLimit preparedOffset, built, ← @pageOffset_or_iff limit,
      ← placed]
    constructor
    · exact fun same => congrArg Select.offset (Except.ok.inj same)
    · intro same
      rw [same, ← limited]

def postRules : List PageRule := [.defaultLimit 20, .limitNumber (some 100)]

def posts : Policy :=
  { (Policy.new "posts" fun names => .ok names).withDefaultFields ["id"] with
    extensions := postRules.map extension }

/-- A statement that a caller has prepared for a page of its own. -/
def preparedPosts : Select where
  conditions := [.compare "tenant" .eq (.integer 7)]
  limit := some 50
  offset := some 20

theorem byNumber_postRules : ByNumber postRules where
  pages := ⟨some 100, by simp [postRules]⟩
  only := by simp [postRules]

/-- The third page starts behind the first two, and a statement that was prepared without a page
leads to the same one. -/
theorem third_page_in_place :
    ∃ statement, posts.build {} (numberedPage "10" "3") (some preparedPosts) = .ok statement ∧
      statement.limit = some 10 ∧ firstRow statement = 20 ∧
      posts.build {} (numberedPage "10" "3")
          (some { preparedPosts with limit := none, offset := none }) =
        posts.build {} (numberedPage "10" "3") (some preparedPosts) := by
  obtain ⟨written, denotes⟩ : "10" ≠ "" ∧ Denotes "10" 10 := readNumber_eq_some_iff.mp rfl
  have third : PageNumber (numberedPage "10" "3") 3 :=
    .given ⟨_, rfl, rfl, by decide⟩ (readNumber_eq_some_iff.mp rfl).2 (by decide)
  have built : posts.build {} (numberedPage "10" "3") (some preparedPosts) =
      .ok { preparedPosts with
        columns := [.columns ["id"]]
        source := some "posts"
        limit := some 10
        offset := some 20 } := rfl
  obtain ⟨limited, placed, same⟩ :=
    prepared_page_in_place_iff rfl byNumber_postRules ⟨_, rfl, rfl, written⟩ denotes third built
  exact ⟨_, built, limited, placed.mpr (by decide), (same none none).mpr (by decide)⟩

/-- The first page of a prepared statement starts where that statement did and not at the first row,
and so it is another page than where nothing was prepared. -/
theorem first_page_keeps_offset :
    Denotes "10" 10 ∧ PageNumber (numberedPage "10" "1") 1 ∧
      ∃ statement, posts.build {} (numberedPage "10" "1") (some preparedPosts) = .ok statement ∧
        statement.limit = some 10 ∧ firstRow statement = 20 ∧ firstRow statement ≠ 10 * (1 - 1) ∧
        posts.build {} (numberedPage "10" "1")
            (some { preparedPosts with limit := none, offset := none }) ≠ .ok statement := by
  have first : PageNumber (numberedPage "10" "1") 1 :=
    .given ⟨_, rfl, rfl, by decide⟩ (readNumber_eq_some_iff.mp rfl).2 (by decide)
  refine ⟨(readNumber_eq_some_iff.mp rfl).2, first, { preparedPosts with
    columns := [.columns ["id"]]
    source := some "posts"
    limit := some 10 }, rfl, rfl, rfl, by decide, fun same => ?_⟩
  cases congrArg Select.offset (Except.ok.inj same)

end QueryGate.PreparedPages
