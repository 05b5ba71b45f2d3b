import VendorSql.Capabilities
import VendorSql.Column
import VendorSql.Datum
import VendorSql.Number.Decimal
import VendorSql.Row
import VendorSql.Toml.Reader

/-!
# Columns, capabilities and rows as data

How the things that are stored in files or sent in messages are written as data and read back. What
is written is read back as it was; what is read may be written more loosely, with other entries in
between and with defaults for the sizes of a column.

A column file lists columns under the key `columns`. A column is written there as a table, or as a
list whose first items are its fields. A file has no null, so the type of a column that is written
as a table with one key has an empty table or list under it.
-/
namespace VendorSql

def Datum.int32? (datum : Datum) : Option Int32 :=
  datum.int?.bind Number.int32?

/-! ### Columns -/

namespace LogicalType

/-- Any name is a type, if only the unknown one. -/
def ofDatum? (datum : Datum) : Option LogicalType :=
  datum.choice?.map ofName

def toDatum (type : LogicalType) : Datum := .text type.name

end LogicalType

namespace Column

/-- The fields of a column in the order in which they are written. -/
def fieldNames : List String := ["name", "type", "length", "precision"]

/-- A column needs a name and a type; a size that is not given is zero. -/
def ofDatum? (datum : Datum) : Option Column := do
  match ← datum.record? fieldNames with
  | [name, type, length, precision] =>
    let name ← Datum.required Datum.text? name
    let logicalType ← Datum.required LogicalType.ofDatum? type
    let length ← Datum.optional Datum.int32? 0 length
    let precision ← Datum.optional Datum.int32? 0 precision
    some { name, logicalType, length, precision }
  | _ => none

def toDatum (column : Column) : Datum :=
  .table
    [("name", .text column.name), ("type", column.logicalType.toDatum),
      ("length", .int column.length.toInt), ("precision", .int column.precision.toInt)]

end Column

/-! ### Column files -/

namespace ColumnFile

/-- The type of a column as messages write it. -/
def typeDatum : Datum → Datum
  | .table [(name, .table [])] | .table [(name, .list [])] => .table [(name, .null)]
  | .table _ => .unreadable
  | datum => datum

/-- The column as messages write it. Items after the fields do not count. -/
def columnDatum : Datum → Datum
  | .table entries =>
    .table (entries.map fun (key, value) => (key, if key = "type" then typeDatum value else value))
  | .list (name :: type :: sizes) => .list (name :: typeDatum type :: sizes.take 2)
  | datum => datum

/-- The columns in the data of a file; a file without the key has none. -/
def ofDatum? (datum : Datum) : Option (List Column) := do
  match (← datum.table?).lookup "columns" with
  | none => some []
  | some columns => (← columns.list?).mapM fun column => Column.ofDatum? (columnDatum column)

def parse? (text : String) : Option (List Column) :=
  (Toml.parse? text).bind ofDatum?

end ColumnFile

/-! ### Capabilities -/

namespace AccessMode

/-- Only the names of modes are modes. -/
def ofDatum? (datum : Datum) : Option AccessMode :=
  datum.choice?.bind ofName?

def toDatum (mode : AccessMode) : Datum := .text mode.name

end AccessMode

namespace Capabilities

/-- A port, or null where a port means nothing. -/
def portOfDatum? : Datum → Option (Option UInt16)
  | .null => some none
  | .int port => (Number.uint16? port).map some
  | _ => none

def portToDatum : Option UInt16 → Datum
  | none => .null
  | some port => .int port.toNat

/-- The ports by access mode; the last port of a mode counts. -/
def portsOfDatum? (datum : Datum) : Option (OrderedMap AccessMode (Option UInt16)) := do
  let entries ← datum.table?
  let ports ← entries.mapM fun (name, port) => do
    some (← AccessMode.ofName? name, ← portOfDatum? port)
  some (.ofList ports)

def portsToDatum (ports : OrderedMap AccessMode (Option UInt16)) : Datum :=
  .table (ports.entries.map fun (mode, port) => (mode.name, portToDatum port))

/-- The fields of capabilities in the order in which they are written. -/
def fieldNames : List String :=
  ["supports_catalogs", "supports_schemas", "supports_sequences", "supports_sequence_no_max_value",
    "supports_bitmap_index", "supports_synonyms", "supports_boolean_type",
    "supports_error_handling_on_batch_updates", "supports_savepoints", "max_inline_varchar_length",
    "default_ports"]

/-- Capabilities are given in full. -/
def ofDatum? (datum : Datum) : Option Capabilities := do
  match ← datum.record? fieldNames with
  | [catalogs, schemas, sequences, sequencesWithoutMaximum, bitmapIndexes, synonyms, booleanType,
      batchErrorHandling, savepoints, maxInlineVarchar, ports] =>
    some {
      catalogs := ← Datum.required Datum.bool? catalogs
      schemas := ← Datum.required Datum.bool? schemas
      sequences := ← Datum.required Datum.bool? sequences
      sequencesWithoutMaximum := ← Datum.required Datum.bool? sequencesWithoutMaximum
      bitmapIndexes := ← Datum.required Datum.bool? bitmapIndexes
      synonyms := ← Datum.required Datum.bool? synonyms
      booleanType := ← Datum.required Datum.bool? booleanType
      batchErrorHandling := ← Datum.required Datum.bool? batchErrorHandling
      savepoints := ← Datum.required Datum.bool? savepoints
      maxInlineVarchar := ← Datum.required Datum.int32? maxInlineVarchar
      ports := ← Datum.required portsOfDatum? ports }
  | _ => none

def entries (capabilities : Capabilities) : List (String × Datum) :=
  fieldNames.zip
    [.bool capabilities.catalogs, .bool capabilities.schemas, .bool capabilities.sequences,
      .bool capabilities.sequencesWithoutMaximum, .bool capabilities.bitmapIndexes,
      .bool capabilities.synonyms, .bool capabilities.booleanType,
      .bool capabilities.batchErrorHandling, .bool capabilities.savepoints,
      .int capabilities.maxInlineVarchar.toInt, portsToDatum capabilities.ports]

def toDatum (capabilities : Capabilities) : Datum := .table capabilities.entries

end Capabilities

/-! ### Rows -/

namespace Value

/-- A number that is no 64-bit integer is a floating-point number. -/
def ofDatum? : Datum → Option Value
  | .null => some .null
  | .bool value => some (.bool value)
  | .int n => match Number.int64? n with
    | some value => some (.int value)
    | none => some (.float (.ofRatio (n < 0) n.natAbs 1))
  | .float value => some (.float value)
  | .text value => some (.text value)
  | .moment _ | .list _ | .table _ | .unreadable => none

def toDatum : Value → Datum
  | null => .null
  | bool value => .bool value
  | int value => .int value.toInt
  | float value => .float value
  | text value => .text value

end Value

namespace Row

/-- The last value of a field counts. -/
def ofDatum? (datum : Datum) : Option Row := do
  match ← datum.record? ["fields"] with
  | [fields] =>
    let entries ← Datum.required Datum.table? fields
    let fields ← entries.mapM fun (name, value) => (Value.ofDatum? value).map (name, ·)
    some (.ofList fields)
  | _ => none

def toDatum (row : Row) : Datum :=
  .table [("fields", .table (row.fields.entries.map fun (name, value) => (name, value.toDatum)))]

end Row

end VendorSql
