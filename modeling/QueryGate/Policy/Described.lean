import QueryGate.Policy

/-! A policy as a log shows it. What cannot be shown, such as the resolver, is left out. -/
namespace QueryGate

def AllowedFilters.described (allowed : AllowedFilters) : String :=
  let entries := allowed.fields.entries.map fun entry =>
    Text.quoted entry.1 ++ ": " ++ Text.quotedSet entry.2.names
  Text.bracketed "AllowedConditions \x7b fields: \x7b" entries "\x7d \x7d"

def Policy.described (policy : Policy) : String :=
  let selectable := match policy.selectable with
    | none => "None"
    | some names => "Some(" ++ Text.quotedSet names.names ++ ")"
  Text.bracketed "ResourceSelectBuilder \x7b "
    [ "resource: " ++ Text.quoted policy.resource,
      "default_fields: " ++ Text.quotedList policy.defaultFields,
      "allowed_select: " ++ selectable,
      "always_select: " ++ Text.quotedList policy.alwaysSelect,
      "always_select_all: " ++ (if policy.selectAll then "true" else "false"),
      "allowed_sort: " ++ Text.quotedSet policy.sortable.names,
      "allowed_conditions: " ++ policy.filterable.described,
      "extensions: " ++ Text.natural policy.extensions.length ]
    ", .. \x7d"

end QueryGate
