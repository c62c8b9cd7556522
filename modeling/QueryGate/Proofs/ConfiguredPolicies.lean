import QueryGate.Config
import QueryGate.Proofs.FirstFailure
import QueryGate.Proofs.PagingEffects
import QueryGate.Proofs.RegistryProofs

/-! Policies made from configurations. A configuration is accepted exactly when it names its
resource and lists registered operations only; its filters then never meet an operation that the
registry does not know, since the policy lets through no others. -/
namespace QueryGate.ConfiguredPolicies
open FirstFailure Outcomes PageRule

variable {config : Config} {registry : Registry} {policy : Policy}

/-- The policy of an accepted configuration. -/
theorem policy_of_accepted (accepted : config.policy registry = .ok policy) :
    policy = {
      resource := config.resource
      resolver := config.resolver
      defaultFields := config.defaultFields
      selectable := config.allowedSelect.map NameSet.ofList
      alwaysSelect := config.alwaysSelect
      selectAll := config.alwaysSelectAll
      sortable := .ofList config.allowedSort
      filterable := config.filters
      conditionOf := registry.condition
      parser := config.delimiters.parser
      extensions := config.pageRules.map PageRule.extension } := by
  rw [Config.policy] at accepted
  split at accepted
  · cases accepted
  · split at accepted
    · cases accepted
    · exact (Except.ok.inj accepted).symm

/-! Listed operations -/

/-- The operations that a configuration lists, each with its field, in their order. -/
def listing (config : Config) : List (String × String) :=
  config.allowedConditions.entries.flatMap fun entry => entry.2.map fun operation =>
    (entry.1, operation)

/-- The first pair of the configuration whose operation is not registered. -/
def FirstUnregistered (registry : Registry) (config : Config) (field operation : String) : Prop :=
  ∃ before after, listing config = before ++ (field, operation) :: after ∧
    (∀ pair ∈ before, pair.2 ∈ registry.names) ∧ operation ∉ registry.names

/-- An operation that is listed again changes nothing in what is found first. -/
theorem find?_pairs (wanted : String × String → Bool) (config : Config) :
    config.filters.pairs.find? wanted = (listing config).find? wanted := by
  rw [Config.filters, AllowedFilters.pairs,
    AllowedFilters.entries_ofList config.allowedConditions.distinct, List.flatMap_map, listing,
    List.find?_flatMap, List.find?_flatMap]
  simp only [List.find?_map, NameSet.find?_names_ofList]

private theorem find?_eq_some_iff {field operation : String} :
    (config.filters.pairs.find? fun (_, operation) => !registry.contains operation) =
        some (field, operation) ↔ FirstUnregistered registry config field operation := by
  rw [find?_pairs, List.find?_eq_some_iff_append, FirstUnregistered]
  simp only [Bool.not_eq_true', ← Bool.not_eq_true, Table.contains_iff, Bool.not_not]
  constructor
  · rintro ⟨unregistered, before, after, split, registered⟩
    exact ⟨before, after, split, registered, unregistered⟩
  · rintro ⟨before, after, split, registered, unregistered⟩
    exact ⟨unregistered, before, after, split, registered⟩

theorem mem_listing {pair : String × String} :
    pair ∈ listing config ↔
      ∃ entry ∈ config.allowedConditions.entries, entry.1 = pair.1 ∧ pair.2 ∈ entry.2 := by
  obtain ⟨field, operation⟩ := pair
  simp only [listing, List.mem_flatMap, List.mem_map, Prod.mk.injEq]
  constructor
  · rintro ⟨entry, member, _, named, rfl, rfl⟩
    exact ⟨entry, member, rfl, named⟩
  · rintro ⟨entry, member, rfl, named⟩
    exact ⟨entry, member, operation, named, rfl, rfl⟩

private theorem find?_eq_none_iff :
    (config.filters.pairs.find? fun (_, operation) => !registry.contains operation) = none ↔
      ∀ entry ∈ config.allowedConditions.entries, ∀ operation ∈ entry.2,
        operation ∈ registry.names := by
  rw [find?_pairs, List.find?_eq_none]
  simp only [Bool.not_eq_true, Bool.not_eq_false', Table.contains_iff, mem_listing]
  constructor
  · intro registered entry member operation named
    exact registered (entry.1, operation) ⟨entry, member, rfl, named⟩
  · rintro registered pair ⟨entry, member, -, named⟩
    exact registered entry member pair.2 named

/-! What a configuration is refused for -/

theorem policy_eq_missing_iff :
    config.policy registry = .error .missingResource ↔ config.resource = "" := by
  rw [Config.policy]
  split
  · rename_i unnamed
    simp [unnamed]
  · rename_i named
    split <;> simp [named]

theorem policy_eq_unknown_iff {field operation : String} :
    config.policy registry = .error (.unknownOperation field operation) ↔
      config.resource ≠ "" ∧ FirstUnregistered registry config field operation := by
  rw [Config.policy, ← find?_eq_some_iff]
  split
  · rename_i unnamed
    simp [unnamed]
  · rename_i named
    cases config.filters.pairs.find? fun (_, operation) => !registry.contains operation with
    | none => simp [named]
    | some pair => simp [named, Prod.ext_iff]

theorem accepted_iff :
    (∃ policy, config.policy registry = .ok policy) ↔ config.resource ≠ "" ∧
      ∀ entry ∈ config.allowedConditions.entries, ∀ operation ∈ entry.2,
        operation ∈ registry.names := by
  rw [Config.policy, ← find?_eq_none_iff]
  split
  · rename_i unnamed
    simp [unnamed]
  · rename_i named
    cases config.filters.pairs.find? fun (_, operation) => !registry.contains operation with
    | none => simp [named]
    | some pair => simp

/-! Errors of accepted configurations -/

/-- The names of a query that have no column are the only ones refused. -/
theorem unresolved_of_resolver {names : List String} {error : Error}
    (refused : config.resolver names = .error error) :
    ∃ entry, error = .unresolved entry .unknownName := by
  rw [Config.resolver] at refused
  cases naming : config.naming with
  | map =>
    rw [naming] at refused
    obtain ⟨name, -, missing⟩ := failing_of_mapM refused
    rw [Resolver.column] at missing
    split at missing
    · cases missing
    · cases missing
      exact ⟨name, rfl⟩
  | snakeCase =>
    rw [naming] at refused
    cases refused

theorem mem_of_condition {operation : String} {make : Condition}
    (registered : registry.condition operation = .ok make) :
    (operation, make) ∈ registry.entries :=
  Table.mem_of_lookup (Registry.condition_eq_ok_iff.mp registered)

/-- No constructor of the registry reports an undefined operation by itself. -/
def ConstructorsDefined (registry : Registry) : Prop :=
  ∀ entry ∈ registry.entries, ∀ column args operation,
    entry.2 column args ≠ .error (.undefinedOperation operation)

theorem build_defined (accepted : config.policy registry = .ok policy)
    (defined : ConstructorsDefined registry) (context : Context) (query : Query)
    (supplied : Option Select) (operation : String) :
    policy.build context query supplied ≠ .error (.undefinedOperation operation) := by
  intro failed
  obtain ⟨-, registered⟩ := accepted_iff.mp ⟨policy, accepted⟩
  obtain rfl := policy_of_accepted accepted
  cases source_of_build failed with
  | resolver refused =>
    obtain ⟨entry, impossible⟩ := unresolved_of_resolver refused
    cases impossible
  | parser refused => cases refused
  | registry allowed refused =>
    -- The operation stands in the configuration, so it is in the registry.
    obtain ⟨entry, member, -, named⟩ := AllowedFilters.permits_ofList.mp allowed
    exact (Registry.condition_eq_error_iff.mp refused).1 (registered entry member _ named)
  | condition found refused => exact defined _ (mem_of_condition found) _ _ _ refused
  | extensions failed =>
    rw [runAll_eq_act, map_eq_error_iff] at failed
    obtain ⟨fault, impossible⟩ := page_of_effects failed
    cases impossible

/-- For every configuration and registry: the configuration is accepted exactly when it names its
resource and every operation that it lists is registered. If not, the missing name is reported
first, and else the first unregistered operation with its field. Under an accepted configuration no
build meets an undefined operation, whatever the query, the supplied statement and the context,
unless a constructor reports one itself. -/
theorem accepted_operations_defined (config : Config) (registry : Registry) :
    ((∃ policy, config.policy registry = .ok policy) ↔ config.resource ≠ "" ∧
      ∀ entry ∈ config.allowedConditions.entries, ∀ operation ∈ entry.2,
        operation ∈ registry.names) ∧
    (config.policy registry = .error .missingResource ↔ config.resource = "") ∧
    (∀ field operation, config.policy registry = .error (.unknownOperation field operation) ↔
      config.resource ≠ "" ∧ FirstUnregistered registry config field operation) ∧
    ∀ policy, config.policy registry = .ok policy → ConstructorsDefined registry →
      ∀ context query supplied operation,
        policy.build context query supplied ≠ .error (.undefinedOperation operation) :=
  ⟨accepted_iff, policy_eq_missing_iff, fun _ _ => policy_eq_unknown_iff,
    fun _ accepted defined => build_defined accepted defined⟩

/-- A registry of one built-in operation and one of its own. -/
def orderRegistry : Registry :=
  .ofList [("eq", (Builtin.compare .eq).condition),
    ("odd", fun field _ => .ok (.raw (field ++ " % 2 = 1")))]

/-- An operation that is listed twice for a field, and one that is listed for two fields. -/
def orderConfig : Config where
  resource := "orders"
  columns := .ofList [("id", "id"), ("total", "total")]
  defaultFields := ["id"]
  allowedConditions := .ofList [("id", ["eq", "odd", "eq"]), ("total", ["odd"])]

/-- A query for an operation that neither the configuration lists nor the registry knows. -/
def orderQuery : Query where
  filters := [⟨"total", "odd"⟩, ⟨"id", "in:1,2"⟩]

theorem order_constructors_defined : ConstructorsDefined orderRegistry := by
  intro entry member column args operation failed
  have entries : orderRegistry.entries = [("eq", (Builtin.compare .eq).condition),
    ("odd", fun field _ => .ok (.raw (field ++ " % 2 = 1")))] := rfl
  rw [entries, List.mem_cons, List.mem_singleton] at member
  rcases member with rfl | rfl
  · have refused : (Builtin.compare .eq).condition column args =
        .error (.undefinedOperation operation) := failed
    obtain ⟨fault, impossible⟩ := Builtin.refusal_of_condition refused
    cases impossible
  · cases failed

theorem orders_never_undefined :
    ∃ policy, orderConfig.policy orderRegistry = .ok policy ∧ ConstructorsDefined orderRegistry ∧
      policy.build { cancelled := true } orderQuery =
        .error (.filteringNotPermitted "id" (some "in")) ∧
      ∀ operation, policy.build { cancelled := true } orderQuery ≠
        .error (.undefinedOperation operation) := by
  have refused : ∀ policy, orderConfig.policy orderRegistry = .ok policy →
      policy.build { cancelled := true } orderQuery =
        .error (.filteringNotPermitted "id" (some "in")) := by
    rintro _ ⟨⟩
    rfl
  obtain ⟨-, -, -, undefined⟩ := accepted_operations_defined orderConfig orderRegistry
  exact ⟨_, rfl, order_constructors_defined, refused _ rfl,
    undefined _ rfl order_constructors_defined _ orderQuery none⟩

end QueryGate.ConfiguredPolicies
