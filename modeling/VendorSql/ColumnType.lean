import VendorSql.Capabilities
import VendorSql.Column
import VendorSql.Number.Decimal

/-!
# The type of a column in a database

One decision table serves every database:

* a date, timestamp or binary column has the type of that name;
* a boolean column has the boolean type if there is one, else a one-character flag;
* a key column that is numeric has the key type, whatever its sizes;
* another numeric column without precision is the narrowest of integer (up to 9 digits), wide
  integer (up to 18) and exact decimal; with a precision and a length it is an exact decimal, and
  otherwise a floating-point number;
* a string column is inline up to the limit of the database and a large text from there on, and has
  a default length if it gives none.

The decision is a value of `ColumnType`; only its spelling depends on the vendor.
-/
namespace VendorSql

/-- How a vendor spells the types. -/
structure TypeTokens where
  date : String
  timestamp : String
  boolean : String
  /-- The type of booleans where there is no boolean type. -/
  booleanFlag : String
  key : String
  /-- Follows the key type if the database numbers the keys. -/
  autoIncrement : String
  /-- Followed by the digits in all and after the point. -/
  decimal : String
  bigInteger : String
  integer : String
  double : String
  /-- Followed by the length. -/
  varchar : String
  largeText : String
  largeBinary : String
  deriving Repr, DecidableEq

/-- Stands in place of a type for a column whose type is unknown. -/
def unknownTypeMarker : String := "UNKNOWN"

def defaultVarcharLength : Int := 100

/-- The type of a column before it is spelled. -/
inductive ColumnType where
  | date
  | timestamp
  | boolean
  | booleanFlag
  | key (autoIncrement : Bool)
  | decimal (length precision : Int)
  | bigInteger
  | integer
  | double
  | varchar (length : Int)
  | largeText
  | largeBinary
  | unmapped
  deriving Repr, DecidableEq

namespace ColumnType

/-- The type of a numeric column that is no key. -/
def ofSizes (length precision : Int) : ColumnType :=
  if precision = 0 then
    if length > 18 then .decimal length 0
    else if length > 9 then .bigInteger
    else .integer
  else if precision > 0 ∧ length > 0 then .decimal length precision
  else .double

/-- The type of a string column, given the first length that is not stored inline. -/
def ofStringLength (limit length : Int) : ColumnType :=
  if 0 < length ∧ length < limit then .varchar length
  else if length ≤ 0 then .varchar defaultVarcharLength
  else .largeText

/-- The type of a column, by the decision table. -/
def ofColumn (capabilities : Capabilities) (column : Column) (keys : KeyColumns) : ColumnType :=
  match column.logicalType with
  | .date => .date
  | .timestamp => .timestamp
  | .boolean => if capabilities.booleanType then .boolean else .booleanFlag
  | .number | .integer | .bigNumber =>
    if column.isKey keys then .key keys.autoIncrement
    else ofSizes column.length.toInt column.precision.toInt
  | .string => ofStringLength capabilities.maxInlineVarchar.toInt column.length.toInt
  | .binary => .largeBinary
  | .unknown => .unmapped

def spell (tokens : TypeTokens) : ColumnType → String
  | .date => tokens.date
  | .timestamp => tokens.timestamp
  | .boolean => tokens.boolean
  | .booleanFlag => tokens.booleanFlag
  | .key autoIncrement => if autoIncrement then tokens.key ++ tokens.autoIncrement else tokens.key
  | .decimal length precision =>
    tokens.decimal ++ "(" ++ Number.decimal length ++ "," ++ Number.decimal precision ++ ")"
  | .bigInteger => tokens.bigInteger
  | .integer => tokens.integer
  | .double => tokens.double
  | .varchar length => tokens.varchar ++ "(" ++ Number.decimal length ++ ")"
  | .largeText => tokens.largeText
  | .largeBinary => tokens.largeBinary
  | .unmapped => unknownTypeMarker

end ColumnType

def columnType (tokens : TypeTokens) (capabilities : Capabilities) (column : Column)
    (keys : KeyColumns) : String :=
  (ColumnType.ofColumn capabilities column keys).spell tokens

/-- The definition of a column: its name if asked for, its type, a line break if asked for. -/
def columnDefinition (tokens : TypeTokens) (capabilities : Capabilities) (column : Column)
    (keys : KeyColumns) (withName withLineBreak : Bool) : String :=
  (if withName then column.name ++ " " else "") ++ columnType tokens capabilities column keys ++
    (if withLineBreak then "\n" else "")

end VendorSql
