import RecordSync.Json.Reader
import RecordSync.Proofs.Document.Notice
import RecordSync.Proofs.Document.Parting
import RecordSync.Proofs.Document.Reversal
import RecordSync.Proofs.Json.Path
import RecordSync.Proofs.Model.Batch
import RecordSync.Proofs.Model.Enforced
import RecordSync.Proofs.Model.Protection
import RecordSync.Proofs.Model.Reset
import RecordSync.Proofs.Model.Validity
import RecordSync.Proofs.Model.Vivifying
import RecordSync.Proofs.Numeric.Integral
import RecordSync.Proofs.Numeric.Quotient
import RecordSync.Proofs.Provider.Caching
import RecordSync.Proofs.Provider.Freshness
import RecordSync.Proofs.Provider.Keys
import RecordSync.Proofs.Provider.Offline
import RecordSync.Proofs.Provider.Pages
import RecordSync.Proofs.Provider.Parameters
import RecordSync.Proofs.Provider.Selection
import RecordSync.Proofs.Provider.Templates
import RecordSync.Proofs.Query.Aggregates
import RecordSync.Proofs.Query.Alike
import RecordSync.Proofs.Query.Buckets
import RecordSync.Proofs.Query.Canonical
import RecordSync.Proofs.Query.Comparing
import RecordSync.Proofs.Query.Composition
import RecordSync.Proofs.Query.Extremes
import RecordSync.Proofs.Query.GroupAggregates
import RecordSync.Proofs.Query.Grouping
import RecordSync.Proofs.Query.Interchange
import RecordSync.Proofs.Query.Ordering
import RecordSync.Proofs.Query.Reading
import RecordSync.Proofs.Query.RoundTrip
import RecordSync.Proofs.Query.ScalarOrder
import RecordSync.Proofs.Query.ValueOrder
import RecordSync.Proofs.Schema.Conforming
import RecordSync.Proofs.Schema.Defaults
import RecordSync.Proofs.Schema.Editing
import RecordSync.Proofs.Schema.Fitting
import RecordSync.Proofs.Schema.Required
import RecordSync.Proofs.Schema.RoundTrip
import RecordSync.Proofs.Schema.Settling
import RecordSync.Proofs.Session.Convergence
import RecordSync.Proofs.Session.Fetching
import RecordSync.Proofs.Session.Keys
import RecordSync.Proofs.Session.Preservation
import RecordSync.Proofs.Session.Sorting
import RecordSync.Proofs.Source.Accepted
import RecordSync.Proofs.Source.Addressing
import RecordSync.Proofs.Source.Atomicity
import RecordSync.Proofs.Source.Cancelling
import RecordSync.Proofs.Source.Filtering
import RecordSync.Proofs.Source.Holding
import RecordSync.Proofs.Source.Interleaving
import RecordSync.Proofs.Source.Restoring
import RecordSync.Proofs.Source.Rollback
import RecordSync.Provider.Traffic
import RecordSync.Report.Query
import RecordSync.Report.Source
import RecordSync.Settings.Basic
import RecordSync.Settings.Logging
import RecordSync.Source.Attempt
import RecordSync.Source.Fetching
import RecordSync.Source.Resources
