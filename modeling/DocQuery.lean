import DocQuery.Main
import DocQuery.Number.Literal
import DocQuery.Operator.Inspect
import DocQuery.Query.Log
import DocQuery.Value.Json
import DocQuery.Proofs.Statement.WellFormed
import DocQuery.Proofs.Operator.Registry
import DocQuery.Proofs.Query.FieldPath
import DocQuery.Proofs.Query.Acceptance
import DocQuery.Proofs.Value.Nesting
import DocQuery.Proofs.Value.Normalization
import DocQuery.Proofs.Value.Rearrangement
import DocQuery.Proofs.Operator.Rearrangement
import DocQuery.Proofs.Statement.Likeness
import DocQuery.Proofs.Query.Rearrangement
import DocQuery.Proofs.Query.Depth
import DocQuery.Proofs.Query.Nesting
import DocQuery.Proofs.Query.Logic
import DocQuery.Proofs.Query.WellFormed
import DocQuery.Proofs.Query.Resolution
import DocQuery.Proofs.Statement.Comparing
import DocQuery.Proofs.Query.Selection
import DocQuery.Proofs.Json.Token
import DocQuery.Proofs.Json.Written
import DocQuery.Proofs.Number
import DocQuery.Proofs.Value.Display
import DocQuery.Proofs.Statement.Calls
import DocQuery.Proofs.Value.Equality
import DocQuery.Proofs.Operator.Membership
import DocQuery.Proofs.Operator.Elements
import DocQuery.Proofs.Operator.Order
import DocQuery.Proofs.Query.Membership
import DocQuery.Proofs.Query.Containment
import DocQuery.Proofs.Query.Patterns
import DocQuery.Proofs.Query.Elements
import DocQuery.Proofs.Query.Order
import DocQuery.Proofs.Query.Distribution
import DocQuery.Proofs.Json.Float
import DocQuery.Proofs.Json.Agreement
import DocQuery.Proofs.Value.Reading
import DocQuery.Proofs.Query.Equality
import DocQuery.Proofs.Value.Equivalence
import DocQuery.Proofs.Statement.Cost
import DocQuery.Proofs.Statement.Shuffling
import DocQuery.Proofs.Query.Cost
import DocQuery.Proofs.Instant
import DocQuery.Proofs.Query.Chronology
import DocQuery.Proofs.Query.Presence
import DocQuery.Proofs.Instant.RoundTrip
import DocQuery.Proofs.Value.NumberText
import DocQuery.Proofs.Query.Division
import DocQuery.Proofs.Value.ComparableForm
import DocQuery.Proofs.Query.Splitting
import DocQuery.Proofs.Pattern.Flags
