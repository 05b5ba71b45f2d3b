import VendorSql.Files.Tree
import VendorSql.Gateway
import VendorSql.Introspection
import VendorSql.Main
import VendorSql.Proofs.CatalogLiterals
import VendorSql.Proofs.IdentifierQuoting
import VendorSql.Proofs.LockDiscipline
import VendorSql.Proofs.BatchIds
import VendorSql.Proofs.LiteralValues
import VendorSql.Proofs.AttributePrecedence
import VendorSql.Proofs.Lowercase
import VendorSql.Proofs.RegistryLookup
import VendorSql.Proofs.BatchOutcome
import VendorSql.Proofs.NumberOrigin
import VendorSql.Proofs.IndexCoverage
import VendorSql.Proofs.IdentifierReading
import VendorSql.Proofs.QualifiedNames
import VendorSql.Proofs.RegistryHistory
import VendorSql.Proofs.AlterationRuns
import VendorSql.Proofs.JsonReading
import VendorSql.Proofs.SpelledTypes
import VendorSql.Proofs.AlterationReports
import VendorSql.Proofs.ColumnNames
import VendorSql.Proofs.IndexedTables
import VendorSql.Proofs.RetypedColumns
import VendorSql.Proofs.RecognizedAttributes
import VendorSql.Proofs.SeparatorPrecedence
import VendorSql.Proofs.AlterationFailures
import VendorSql.Proofs.SettledByFlags
import VendorSql.Proofs.KeptNames
import VendorSql.Proofs.QuotedIdentifiers
import VendorSql.Proofs.DistinctLiterals
import VendorSql.Proofs.IndexCatalogs
import VendorSql.Proofs.TypeCapacity
import VendorSql.Proofs.LockStatements
import VendorSql.Proofs.StoredRecords
import VendorSql.Proofs.StoredRows
import VendorSql.Proofs.RowHistory
import VendorSql.Proofs.IntegerView
import VendorSql.Proofs.TypeTable
import VendorSql.Proofs.CapabilityFlags
