import Cql.Value.Collection
import Cql.Key.Json
import Cql.Workbench
import Cql.Proofs.Alignment
import Cql.Proofs.Exec
import Cql.Proofs.Paging.Agreement
import Cql.Proofs.Paging.Retry
import Cql.Proofs.Outline.Grammar
import Cql.Proofs.Outline.Write
import Cql.Proofs.Noninterference
import Cql.Proofs.Runs
import Cql.Proofs.Paging.Laziness
import Cql.Proofs.Paging.Lookup
import Cql.Proofs.Interleaving
import Cql.Proofs.Keys.Condition
import Cql.Proofs.Keys.Null
import Cql.Proofs.Keys.Composite
import Cql.Proofs.Keys.Saving
import Cql.Proofs.Batch
import Cql.Proofs.Collections.Scanning
import Cql.Proofs.Collections.Members
import Cql.Proofs.Collections.Rendering
import Cql.Proofs.Text.Literal
import Cql.Proofs.NameLanguage
import Cql.Proofs.Values.Calendar
import Cql.Proofs.Keys.Millis
import Cql.Proofs.Keys.Reading
import Cql.Proofs.Keys.Casting
import Cql.Proofs.Values.Literal
import Cql.Proofs.Options
import Cql.Proofs.Keys.Json
import Cql.Proofs.Logging.Runs
import Cql.Proofs.Outline.Reading
