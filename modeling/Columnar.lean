import Columnar.Number.Layout
import Columnar.Text.Blank
import Columnar.Text.Digits
import Columnar.Text.Quoted
import Columnar.Text.Width
import Columnar.Json.Printer
import Columnar.Json.Reader
import Columnar.Component.Catalog
import Columnar.Record.Construct
import Columnar.Ingest.Table
import Columnar.Catalog.Records
import Columnar.Command.Run
import Columnar.Main
import Columnar.Proofs.Boundaries
import Columnar.Proofs.Catalog.ClassIds
import Columnar.Proofs.Catalog.Members
import Columnar.Proofs.Column.UnitRows
import Columnar.Proofs.Command.Indexing
import Columnar.Proofs.Component.Grammar
import Columnar.Proofs.Component.Overflow
import Columnar.Proofs.Image.Columns
import Columnar.Proofs.Image.Grammar
import Columnar.Proofs.Image.Size
import Columnar.Proofs.Ingest.Naming
import Columnar.Proofs.Ingest.Reading
import Columnar.Proofs.Record.Building
import Columnar.Proofs.Record.Clearing
import Columnar.Proofs.Record.Complete
import Columnar.Proofs.Record.Entries
import Columnar.Proofs.Record.Recovery
import Columnar.Proofs.Record.Rejection
import Columnar.Proofs.Record.Replacement
import Columnar.Proofs.Record.RoundTrip
