import QueryGate.Config.Json
import QueryGate.Config.Toml
import QueryGate.Dialect.Json
import QueryGate.Policy.Build
import QueryGate.Policy.Described
import QueryGate.Query.Json
import QueryGate.Value.Binding
import QueryGate.Value.Json
import QueryGate.Proofs.AllowListWidening
import QueryGate.Proofs.ArgumentIndependence
import QueryGate.Proofs.BatchResolution
import QueryGate.Proofs.BlankNodes
import QueryGate.Proofs.BuildTrace
import QueryGate.Proofs.ClauseBodies
import QueryGate.Proofs.ClauseContributions
import QueryGate.Proofs.ColumnResolution
import QueryGate.Proofs.ConditionStructure
import QueryGate.Proofs.ConfiguredPaging
import QueryGate.Proofs.FragmentLaws
import QueryGate.Proofs.MalformedNodes
import QueryGate.Proofs.NumberedPages
import QueryGate.Proofs.PlaceholderNumbering
import QueryGate.Proofs.PolicyEnforcement
import QueryGate.Proofs.PredicateRoundTrip
import QueryGate.Proofs.PreparedPages
import QueryGate.Proofs.RegistryHistory
import QueryGate.Proofs.RequestFaults
import QueryGate.Proofs.SuppliedStatement
import QueryGate.Proofs.TemplateMarkers
import QueryGate.Proofs.ValueRoundTrip
