import VendorSql.Text.Case

/-!
# Columns

A column as the program receives it: a name, a type that belongs to no database in particular, and
two sizes. A length or precision that is zero or less says nothing about the column.
-/
namespace VendorSql

/-- The kind of values a column holds, independent of any database. -/
inductive LogicalType where
  | date
  | timestamp
  | boolean
  | number
  | integer
  | bigNumber
  | string
  | binary
  | unknown
  deriving Repr, DecidableEq

namespace LogicalType

/-- The types with a name of their own, in the order in which they are documented. -/
def all : List LogicalType :=
  [date, timestamp, boolean, number, integer, bigNumber, string, binary, unknown]

def name : LogicalType → String
  | date => "date"
  | timestamp => "timestamp"
  | boolean => "boolean"
  | number => "number"
  | integer => "integer"
  | bigNumber => "bignumber"
  | string => "string"
  | binary => "binary"
  | unknown => "unknown"

/-- The type a name stands for: `bigdecimal` is a second name of `bignumber`, and a name that
belongs to no type stands for the unknown one. -/
def ofName (name : String) : LogicalType :=
  match name with
  | "date" => date
  | "timestamp" => timestamp
  | "boolean" => boolean
  | "number" => number
  | "integer" => integer
  | "bignumber" => bigNumber
  | "bigdecimal" => bigNumber
  | "string" => string
  | "binary" => binary
  | _ => unknown

def isNumeric : LogicalType → Bool
  | number | integer | bigNumber => true
  | _ => false

@[simp] theorem ofName_name (type : LogicalType) : ofName type.name = type := by
  cases type <;> rfl

end LogicalType

/-- A column to be defined, changed or dropped. -/
structure Column where
  name : String
  logicalType : LogicalType
  length : Int32 := 0
  precision : Int32 := 0
  deriving Repr, DecidableEq

/-- Which columns are keys, and whether the database numbers them by itself. -/
structure KeyColumns where
  /-- The surrogate key. -/
  technical : Option String := none
  /-- The natural key. -/
  primary : Option String := none
  /-- Key columns carry the vendor's auto-increment clause. -/
  autoIncrement : Bool := false
  deriving Repr, DecidableEq

/-- Whether the column is one of the keys; case is ignored. -/
def Column.isKey (column : Column) (keys : KeyColumns) : Bool :=
  [keys.technical, keys.primary].any fun key =>
    key.any (Text.equalIgnoringCase · column.name)

end VendorSql
