import StructGen.Declared.Mapped
import StructGen.Declared.Plain
import StructGen.Declared.Record.Schema
import StructGen.Introspector
import StructGen.Proofs.Accounting
import StructGen.Proofs.BuiltFiles
import StructGen.Proofs.CamelNames
import StructGen.Proofs.ConnectionFile
import StructGen.Proofs.DataSources
import StructGen.Proofs.DefaultLiterals
import StructGen.Proofs.DiagnosticLines
import StructGen.Proofs.Discovery
import StructGen.Proofs.EmbeddingSearch
import StructGen.Proofs.Enlargement
import StructGen.Proofs.ExportedNames
import StructGen.Proofs.Fates
import StructGen.Proofs.FieldSettings
import StructGen.Proofs.FileOutline
import StructGen.Proofs.FilePaths
import StructGen.Proofs.ForeignKeyTags
import StructGen.Proofs.Imports
import StructGen.Proofs.Isolation
import StructGen.Proofs.JsonRecords
import StructGen.Proofs.KeyPlaces
import StructGen.Proofs.LogPrograms
import StructGen.Proofs.PackageClause
import StructGen.Proofs.Preorder
import StructGen.Proofs.ReferenceTypes
import StructGen.Proofs.References
import StructGen.Proofs.Rerun
import StructGen.Proofs.Revalidation
import StructGen.Proofs.Rounds
import StructGen.Proofs.RunLog
import StructGen.Proofs.Selection
import StructGen.Proofs.UnderscoredNames
import StructGen.Proofs.ValueCycles
import StructGen.Proofs.WaysBack
import StructGen.Proofs.Winners
import StructGen.Validation.Records
import StructGen.Value.Entries
