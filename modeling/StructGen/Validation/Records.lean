import StructGen.Database
import StructGen.Diagnostic
import StructGen.Schema
import StructGen.Validation
/-!
# Reading records

The readers of the records of schemas, structs, diagnostics and connections. The fields of a record
are read in the order in which they are declared.
-/
namespace StructGen

/-- Reads a column. -/
def Column.read : ReadAs Column :=
  .record fun d =>
    Column.mk <$> d.field "name" .text
      <*> d.field "source_type" .text
      <*> d.fieldOr "nullable" false .bool
      <*> d.fieldOr "has_default" false .bool
      <*> d.fieldOr "is_primary_key" false .bool
      <*> d.fieldOr "default" .null .any
      <*> d.fieldOr "length" none (.orNull .int)
      <*> d.fieldOr "unique" false .bool

/-- Reads an association. -/
def Association.read : ReadAs Association :=
  .record fun d =>
    Association.mk <$> d.field "name" .text
      <*> d.field "kind" (.choice AssociationKind.all AssociationKind.name)
      <*> d.field "target_model" .text
      <*> d.field "foreign_key" .text
      <*> d.fieldOr "join_table" none (.orNull .text)

/-- Reads a schema. -/
def Model.read : ReadAs Model :=
  .record fun d =>
    Model.mk <$> d.field "name" .text
      <*> d.field "table_name" .text
      <*> d.fieldOr "columns" [] (.list Column.read)
      <*> d.fieldOr "associations" [] (.list Association.read)

/-- Reads a link. -/
def Link.read : ReadAs Link :=
  .record fun d =>
    Link.mk <$> d.field "association" Association.read
      <*> d.field "target_struct" .text
      <*> d.field "cardinality" (.choice Cardinality.all Cardinality.name)
      <*> d.fieldOr "by_reference" false .bool

/-- Reads a field of a struct. -/
def GoField.read : ReadAs GoField :=
  .record fun d =>
    GoField.mk <$> d.field "field_name" .text
      <*> d.field "field_type" .text
      <*> d.field "tag" .text
      <*> d.fieldOr "comment" "" .text

/-- Reads a struct. -/
def GoStruct.read : ReadAs GoStruct :=
  .record fun d =>
    GoStruct.mk <$> d.field "struct_name" .text
      <*> d.field "table_name" .text
      <*> d.fieldOr "fields" [] (.list GoField.read)
      <*> d.fieldOr "imports" [] (.list .text)

/-- Reads a diagnostic. -/
def Diagnostic.read : ReadAs Diagnostic :=
  .record fun d =>
    Diagnostic.mk <$> d.field "model" .text
      <*> d.field "kind" (.choice DiagnosticKind.all DiagnosticKind.name)
      <*> d.field "message" .text
      <*> d.fieldOr "code" none (.orNull .text)
      <*> d.fieldOr "subject" none (.orNull .text)

/-- Reads a connection. -/
def Connection.read : ReadAs Connection :=
  .record fun d =>
    Connection.mk <$> d.field "driver_name" .text
      <*> d.field "dsn" .text
      <*> d.field "driver_package" .text

/-- Reads database settings. -/
def DatabaseSettings.read : ReadAs DatabaseSettings :=
  .record fun d =>
    DatabaseSettings.mk <$> d.field "adapter" .text
      <*> d.fieldOr "database" "" .text
      <*> d.fieldOr "host" none (.orNull .text)
      <*> d.fieldOr "port" none (.orNull .int)
      <*> d.fieldOr "username" none (.orNull .text)
      <*> d.fieldOr "password" none (.orNull .text)
      <*> d.fieldOr "encoding" none (.orNull .text)

end StructGen
