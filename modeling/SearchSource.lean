import SearchSource.Source
import SearchSource.Settings.Connection
import SearchSource.Settings.Factory
import SearchSource.Log.Pipeline
import SearchSource.Json.Reader
import SearchSource.Proofs.Query.Clauses
import SearchSource.Proofs.Query.Meaning
import SearchSource.Proofs.Query.RepeatedBounds
import SearchSource.Proofs.Query.Aggregation
import SearchSource.Proofs.Result.Answer
import SearchSource.Proofs.Result.Inversion
import SearchSource.Proofs.Result.RoundTrip
import SearchSource.Proofs.Query.Assembly
import SearchSource.Proofs.Result.Readable
import SearchSource.Proofs.Metrics.Ledger
import SearchSource.Proofs.Source.Execution
import SearchSource.Proofs.Source.Accounting
import SearchSource.Proofs.Json.Writable
import SearchSource.Proofs.Source.Explanation
import SearchSource.Proofs.Source.Failing
import SearchSource.Proofs.Source.Interleaving
import SearchSource.Proofs.Query.Restrictions
import SearchSource.Proofs.Transport.Arguments
import SearchSource.Proofs.Settings.Precedence
import SearchSource.Proofs.Settings.Skipping
import SearchSource.Proofs.Settings.Typing
import SearchSource.Proofs.Log.Redaction
import SearchSource.Proofs.Settings.Completion
import SearchSource.Proofs.Settings.Connection
import SearchSource.Proofs.Settings.Variables
import SearchSource.Proofs.Result.Flatten
import SearchSource.Proofs.Source.Diagnostics
import SearchSource.Proofs.Query.Options
import SearchSource.Proofs.Log.Pipeline
import SearchSource.Proofs.Query.Acceptance
import SearchSource.Proofs.Query.Shape
import SearchSource.Proofs.Number.Numeral
import SearchSource.Proofs.Query.NormalForm
import SearchSource.Proofs.Query.Respelling
import SearchSource.Proofs.Query.Paging
import SearchSource.Proofs.Query.Unsupported
import SearchSource.Proofs.Source.Refusal
import SearchSource.Proofs.Result.Frame
import SearchSource.Proofs.Query.Projection
import SearchSource.Proofs.Result.Identity
import SearchSource.Proofs.Query.Sorting
import SearchSource.Proofs.Number.Double
import SearchSource.Proofs.Settings.Loading
import SearchSource.Proofs.Settings.Timeout
import SearchSource.Proofs.Log.Composition
import SearchSource.Proofs.Text.CommaList
import SearchSource.Proofs.Transport.Delivery
import SearchSource.Proofs.Source.Reset
import SearchSource.Proofs.Number.Spelling
import SearchSource.Proofs.Settings.Annotation
import SearchSource.Proofs.Number.Readers
import SearchSource.Proofs.Settings.PlainFile
import SearchSource.Proofs.Settings.Overlay
import SearchSource.Proofs.Settings.FileAgreement
