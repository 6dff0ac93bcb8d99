import TypedQuery.Postgres.Connection
import TypedQuery.Postgres.ScriptedServer
import TypedQuery.Proofs.AtomicTransactions
import TypedQuery.Proofs.CanonicalQuery
import TypedQuery.Proofs.CellNumbers
import TypedQuery.Proofs.ClosedConnections
import TypedQuery.Proofs.Coercions
import TypedQuery.Proofs.CommittedWork
import TypedQuery.Proofs.DecimalText
import TypedQuery.Proofs.DecodedRows
import TypedQuery.Proofs.DeclaredConstraints
import TypedQuery.Proofs.ExactNumbers
import TypedQuery.Proofs.ExactUpdates
import TypedQuery.Proofs.FirstFaults
import TypedQuery.Proofs.FoundRecords
import TypedQuery.Proofs.HexText
import TypedQuery.Proofs.InsertedRecords
import TypedQuery.Proofs.IntegerText
import TypedQuery.Proofs.KeyCounts
import TypedQuery.Proofs.KeyRules
import TypedQuery.Proofs.NamedColumns
import TypedQuery.Proofs.PluckedRows
import TypedQuery.Proofs.RealCells
import TypedQuery.Proofs.ReleasedValues
import TypedQuery.Proofs.Renumbering
import TypedQuery.Proofs.RowSource
import TypedQuery.Proofs.StatementTexts
import TypedQuery.Proofs.StoredRecords
import TypedQuery.Proofs.TableDefinitions
import TypedQuery.Proofs.TextOrder
import TypedQuery.Proofs.TimestampText
import TypedQuery.Proofs.TransactionFlag
import TypedQuery.Proofs.Utf8Text
import TypedQuery.Sample
import TypedQuery.Session.Run
