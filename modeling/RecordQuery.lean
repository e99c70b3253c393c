import RecordQuery.Main
import RecordQuery.Query
import RecordQuery.Proofs.Condition.Literals
import RecordQuery.Proofs.Condition.Membership
import RecordQuery.Proofs.Path.Delimited
import RecordQuery.Proofs.Projection.Filling
import RecordQuery.Proofs.Query.Brackets
import RecordQuery.Proofs.Query.Collect
import RecordQuery.Proofs.Query.Conforming
import RecordQuery.Proofs.Query.Positions
import RecordQuery.Proofs.Query.Select
import RecordQuery.Proofs.Table.Calls
import RecordQuery.Proofs.Table.Constants
import RecordQuery.Proofs.Table.Faults
import RecordQuery.Proofs.Table.Folding
import RecordQuery.Proofs.Table.Positions
import RecordQuery.Proofs.Sql.RoundTrip
import RecordQuery.Proofs.Table.Histories
import RecordQuery.Proofs.Condition.Respelling
import RecordQuery.Proofs.Path.Faults
import RecordQuery.Proofs.Query.Faults
import RecordQuery.Proofs.Table.Respelling
import RecordQuery.Proofs.Condition.Presence
import RecordQuery.Proofs.Condition.Swapping
import RecordQuery.Proofs.Table.ShortCircuit
import RecordQuery.Proofs.Condition.Requests
import RecordQuery.Proofs.Condition.Members
import RecordQuery.Proofs.Condition.Arguments
import RecordQuery.Proofs.Route.Callbacks
import RecordQuery.Proofs.Sql.Counting
import RecordQuery.Proofs.Sql.Registering
import RecordQuery.Proofs.Sql.Integers
import RecordQuery.Proofs.Number.Whole
import RecordQuery.Proofs.Table.FirstWord
import RecordQuery.Proofs.Condition.Exactness
import RecordQuery.Proofs.Table.WholeCasts
import RecordQuery.Proofs.Table.TypedCasts
import RecordQuery.Proofs.Schema.Keys
import RecordQuery.Proofs.Schema.NormalForm
import RecordQuery.Proofs.Schema.Collisions
import RecordQuery.Proofs.Schema.Samples
import RecordQuery.Proofs.Table.Definitions
import RecordQuery.Proofs.Table.Samples
import RecordQuery.Proofs.Path.Grammar
import RecordQuery.Proofs.Projection.Targets
import RecordQuery.Proofs.Table.Detected
import RecordQuery.Proofs.Table.Reading
