import SqlClient.CommandLine.Plan
import SqlClient.Cursor.Fetch
import SqlClient.Main
import SqlClient.Page
import SqlClient.Proofs.Accumulation
import SqlClient.Proofs.Agreement
import SqlClient.Proofs.Attempt
import SqlClient.Proofs.Binding
import SqlClient.Proofs.Bindings
import SqlClient.Proofs.BoundColumns
import SqlClient.Proofs.Clauses
import SqlClient.Proofs.Cutting
import SqlClient.Proofs.Decoding
import SqlClient.Proofs.Dialects
import SqlClient.Proofs.Escaped
import SqlClient.Proofs.Exchange
import SqlClient.Proofs.Forward
import SqlClient.Proofs.GivenAlias
import SqlClient.Proofs.Grouping
import SqlClient.Proofs.Legible
import SqlClient.Proofs.LostTransaction
import SqlClient.Proofs.Monitoring
import SqlClient.Proofs.NestedTransaction
import SqlClient.Proofs.Numbering
import SqlClient.Proofs.Ordering
import SqlClient.Proofs.OwnLevel
import SqlClient.Proofs.Paging
import SqlClient.Proofs.Precedence
import SqlClient.Proofs.Protection
import SqlClient.Proofs.QuotedLists
import SqlClient.Proofs.Quoting
import SqlClient.Proofs.RandomAccess
import SqlClient.Proofs.Reading
import SqlClient.Proofs.Rereading
import SqlClient.Proofs.RoundTrip
import SqlClient.Proofs.Setbacks
import SqlClient.Proofs.StrandedTransaction
import SqlClient.Proofs.Tokens
import SqlClient.Proofs.Truncation
import SqlClient.Proofs.Unsent
import SqlClient.Proofs.ValueSets
import SqlClient.Proofs.WindowLimits
import SqlClient.Script
import SqlClient.Session.Query
import SqlClient.Session.Transaction
import SqlClient.Proofs.ConflictTargets
import SqlClient.Proofs.NamedAccess
import SqlClient.Proofs.AddressParts
import SqlClient.Proofs.DistinctColumns
import SqlClient.Proofs.SourceAliases
import SqlClient.Proofs.Documents
import SqlClient.Proofs.Sections
import SqlClient.Proofs.Positions
