import QueryAudit.Main
import QueryAudit.Proofs.Auditing
import QueryAudit.Proofs.Buffers
import QueryAudit.Proofs.ColumnSearch
import QueryAudit.Proofs.WholeText
import QueryAudit.Proofs.Joining
import QueryAudit.Proofs.Interruption
import QueryAudit.Proofs.Truncation
import QueryAudit.Proofs.Encoding
import QueryAudit.Proofs.Rereading
import QueryAudit.Proofs.Agreement
import QueryAudit.Proofs.JsonLines
import QueryAudit.Proofs.Traces
import QueryAudit.Proofs.ReportLines
import QueryAudit.Proofs.LargerCatalogs
import QueryAudit.Proofs.Rejoining
import QueryAudit.Proofs.SplitterGrammar
import QueryAudit.Proofs.InertContents
import QueryAudit.Proofs.EmptyStatements
import QueryAudit.Proofs.Consumption
import QueryAudit.Proofs.Exhaustion
import QueryAudit.Proofs.TextOrder
import QueryAudit.Proofs.CatalogContents
import QueryAudit.Proofs.DecodingFaults
import QueryAudit.Proofs.InvalidStatements
import QueryAudit.Proofs.WrittenRecords
import QueryAudit.Proofs.CountedReports
import QueryAudit.Proofs.Separators
import QueryAudit.Proofs.Cursor
import QueryAudit.Proofs.Runs
