import VendorSql.Proofs.TypeCapacity
import Mathlib.Logic.ExistsUnique

/-!
# The decision table of column types

The table that decides the type of a column can be read in any order: its lines are given here as
conditions on the column, the keys and the database, and of these exactly one is true of every
input, whatever the sizes and the limit. The definition of a column has the text of that line.
-/
namespace VendorSql

def KeyColumns.Name (keys : KeyColumns) (name : String) : Prop :=
  ∃ key, (keys.technical = some key ∨ keys.primary = some key) ∧
    Text.equalIgnoringCase key name = true

theorem Column.isKey_iff (column : Column) (keys : KeyColumns) :
    column.isKey keys = true ↔ keys.Name column.name := by
  simp only [isKey, List.any_cons, List.any_nil, Bool.or_false, Bool.or_eq_true, KeyColumns.Name,
    Option.any_eq_true, or_and_right, exists_or]

theorem Number.decimal_toInt (n : Int32) : decimal n.toInt = toString n := by
  change decimal n.toInt = n.toInt.repr
  cases n.toInt with
  | ofNat m => rfl
  | negSucc m =>
    rw [decimal, decimalChars, String.ofList_cons]
    rfl

inductive TypeRule where
  | date
  | timestamp
  | boolean
  | booleanFlag
  | key
  | numberedKey
  | longNumber
  | wideInteger
  | shortInteger
  | decimal
  | double
  | varchar
  | defaultVarchar
  | largeText
  | largeBinary
  | unknown
  deriving DecidableEq

namespace TypeRule

section

variable (capabilities : Capabilities) (column : Column) (keys : KeyColumns)

def Numeric : Prop :=
  column.logicalType = .number ∨ column.logicalType = .integer ∨ column.logicalType = .bigNumber

/-- A number that is a key. -/
def KeyNumber : Prop :=
  Numeric column ∧ keys.Name column.name

/-- A number that is no key. -/
def PlainNumber : Prop :=
  Numeric column ∧ ¬keys.Name column.name

/-- The condition of a line. No condition refers to another line. -/
def Applies : TypeRule → Prop
  | date => column.logicalType = .date
  | timestamp => column.logicalType = .timestamp
  | boolean => column.logicalType = .boolean ∧ capabilities.booleanType = true
  | booleanFlag => column.logicalType = .boolean ∧ capabilities.booleanType = false
  | key => KeyNumber column keys ∧ keys.autoIncrement = false
  | numberedKey => KeyNumber column keys ∧ keys.autoIncrement = true
  | longNumber => PlainNumber column keys ∧ column.precision.toInt = 0 ∧ 18 < column.length.toInt
  | wideInteger =>
    PlainNumber column keys ∧ column.precision.toInt = 0 ∧
      9 < column.length.toInt ∧ column.length.toInt ≤ 18
  | shortInteger => PlainNumber column keys ∧ column.precision.toInt = 0 ∧ column.length.toInt ≤ 9
  | decimal => PlainNumber column keys ∧ 0 < column.precision.toInt ∧ 0 < column.length.toInt
  | double =>
    PlainNumber column keys ∧
      (column.precision.toInt < 0 ∨ 0 < column.precision.toInt ∧ column.length.toInt ≤ 0)
  | varchar =>
    column.logicalType = .string ∧ 0 < column.length.toInt ∧
      column.length.toInt < capabilities.maxInlineVarchar.toInt
  | defaultVarchar => column.logicalType = .string ∧ column.length.toInt ≤ 0
  | largeText =>
    column.logicalType = .string ∧ 0 < column.length.toInt ∧
      capabilities.maxInlineVarchar.toInt ≤ column.length.toInt
  | largeBinary => column.logicalType = .binary
  | unknown => column.logicalType = .unknown

def text (tokens : TypeTokens) : TypeRule → String
  | date => tokens.date
  | timestamp => tokens.timestamp
  | boolean => tokens.boolean
  | booleanFlag => tokens.booleanFlag
  | key => tokens.key
  | numberedKey => tokens.key ++ tokens.autoIncrement
  | longNumber => tokens.decimal ++ "(" ++ toString column.length ++ ",0)"
  | wideInteger => tokens.bigInteger
  | shortInteger => tokens.integer
  | decimal =>
    tokens.decimal ++ "(" ++ toString column.length ++ "," ++ toString column.precision ++ ")"
  | double => tokens.double
  | varchar => tokens.varchar ++ "(" ++ toString column.length ++ ")"
  | defaultVarchar => tokens.varchar ++ "(100)"
  | largeText => tokens.largeText
  | largeBinary => tokens.largeBinary
  | unknown => "UNKNOWN"

end

section

variable {capabilities : Capabilities} {column : Column} {keys : KeyColumns}

/-! ### One line for each input -/

/-- No two lines apply at once. -/
theorem Applies.unique {rule other : TypeRule} (first : Applies capabilities column keys rule)
    (second : Applies capabilities column keys other) : rule = other := by
  -- Two lines for one type differ in what they say of the keys, a flag or the sizes.
  cases rule <;> cases other <;> grind [Applies, KeyNumber, PlainNumber, Numeric]

theorem KeyNumber.exists_applies (number : KeyNumber column keys) :
    ∃ rule, Applies capabilities column keys rule := by
  cases numbered : keys.autoIncrement with
  | false => exact ⟨key, number, numbered⟩
  | true => exact ⟨numberedKey, number, numbered⟩

theorem PlainNumber.exists_applies (number : PlainNumber column keys) :
    ∃ rule, Applies capabilities column keys rule := by
  -- Only a number without precision is subject to the thresholds.
  obtain negative | whole | placed := lt_trichotomy column.precision.toInt 0
  · exact ⟨double, number, .inl negative⟩
  · obtain short | longer := le_or_gt column.length.toInt 9
    · exact ⟨shortInteger, number, whole, short⟩
    · obtain wide | long := le_or_gt column.length.toInt 18
      · exact ⟨wideInteger, number, whole, longer, wide⟩
      · exact ⟨longNumber, number, whole, long⟩
  · obtain missing | sized := le_or_gt column.length.toInt 0
    · exact ⟨double, number, .inr ⟨placed, missing⟩⟩
    · exact ⟨decimal, number, placed, sized⟩

theorem Numeric.exists_applies (numeric : Numeric column) :
    ∃ rule, Applies capabilities column keys rule := by
  by_cases key : keys.Name column.name
  · exact KeyNumber.exists_applies ⟨numeric, key⟩
  · exact PlainNumber.exists_applies ⟨numeric, key⟩

/-- To every column some line applies. -/
theorem exists_applies (capabilities : Capabilities) (column : Column) (keys : KeyColumns) :
    ∃ rule, Applies capabilities column keys rule := by
  -- The kind of the column settles the line, or which of two sizes do.
  cases kind : column.logicalType with
  | date => exact ⟨date, kind⟩
  | timestamp => exact ⟨timestamp, kind⟩
  | boolean =>
    cases typed : capabilities.booleanType with
    | true => exact ⟨boolean, kind, typed⟩
    | false => exact ⟨booleanFlag, kind, typed⟩
  | number => exact Numeric.exists_applies (.inl kind)
  | integer => exact Numeric.exists_applies (.inr (.inl kind))
  | bigNumber => exact Numeric.exists_applies (.inr (.inr kind))
  | string =>
    obtain missing | given := le_or_gt column.length.toInt 0
    · exact ⟨defaultVarchar, kind, missing⟩
    · -- A limit of zero or less is below every length that is given.
      obtain beyond | below := le_or_gt capabilities.maxInlineVarchar.toInt column.length.toInt
      · exact ⟨largeText, kind, given, beyond⟩
      · exact ⟨varchar, kind, given, below⟩
  | binary => exact ⟨largeBinary, kind⟩
  | unknown => exact ⟨unknown, kind⟩

/-! ### The text of the line -/

theorem Numeric.isNumeric (numeric : Numeric column) : column.logicalType.isNumeric = true := by
  rcases numeric with kind | kind | kind <;> rw [kind] <;> rfl

theorem KeyNumber.ofColumn (key : KeyNumber column keys) :
    ColumnType.ofColumn capabilities column keys = .key keys.autoIncrement :=
  ColumnType.ofColumn_of_key key.1.isNumeric ((column.isKey_iff keys).mpr key.2)

theorem PlainNumber.ofColumn (plain : PlainNumber column keys) :
    ColumnType.ofColumn capabilities column keys =
      .ofSizes column.length.toInt column.precision.toInt := by
  apply ColumnType.ofColumn_of_number plain.1.isNumeric
  exact Bool.eq_false_iff.mpr fun key => plain.2 ((column.isKey_iff keys).mp key)

/-- The type of a column is that of the line that applies, checked line by line. -/
theorem columnType_of_applies (tokens : TypeTokens) {rule : TypeRule}
    (applies : Applies capabilities column keys rule) :
    columnType tokens capabilities column keys = rule.text column tokens := by
  unfold columnType
  -- Each line has the facts that decide the branches of the function, and no others.
  cases rule with
  | date | timestamp | largeBinary | unknown =>
    simp only [Applies] at applies
    simp only [ColumnType.ofColumn, applies]
    rfl
  | boolean | booleanFlag =>
    obtain ⟨kind, typed⟩ := applies
    simp only [ColumnType.ofColumn, kind, typed]
    rfl
  | key | numberedKey =>
    obtain ⟨key, numbered⟩ := applies
    rw [key.ofColumn, numbered]
    rfl
  | longNumber =>
    obtain ⟨plain, whole, long⟩ := applies
    rw [plain.ofColumn, ColumnType.ofSizes, if_pos whole, if_pos long]
    simp only [ColumnType.spell, Number.decimal_toInt, text, String.append_assoc]
    rfl
  | wideInteger =>
    obtain ⟨plain, whole, above, below⟩ := applies
    rw [plain.ofColumn, ColumnType.ofSizes, if_pos whole, if_neg (by omega), if_pos above]
    rfl
  | shortInteger =>
    obtain ⟨plain, whole, short⟩ := applies
    rw [plain.ofColumn, ColumnType.ofSizes, if_pos whole, if_neg (by omega), if_neg (by omega)]
    rfl
  | decimal =>
    obtain ⟨plain, placed, sized⟩ := applies
    rw [plain.ofColumn, ColumnType.ofSizes, if_neg (by omega), if_pos ⟨placed, sized⟩]
    simp only [ColumnType.spell, Number.decimal_toInt, text]
  | double =>
    obtain ⟨plain, unusable⟩ := applies
    rw [plain.ofColumn, ColumnType.ofSizes, if_neg (by omega), if_neg (by omega)]
    rfl
  | varchar =>
    obtain ⟨kind, given, below⟩ := applies
    simp only [ColumnType.ofColumn, kind]
    rw [ColumnType.ofStringLength, if_pos ⟨given, below⟩]
    simp only [ColumnType.spell, Number.decimal_toInt, text]
  | defaultVarchar =>
    obtain ⟨kind, missing⟩ := applies
    simp only [ColumnType.ofColumn, kind]
    rw [ColumnType.ofStringLength, if_neg (by omega), if_pos missing]
    simp only [ColumnType.spell, text, String.append_assoc]
    rfl
  | largeText =>
    obtain ⟨kind, given, beyond⟩ := applies
    simp only [ColumnType.ofColumn, kind]
    rw [ColumnType.ofStringLength, if_neg (by omega), if_neg (by omega)]
    rfl

end

end TypeRule

/-- Exactly one line of the table applies to a column, whatever its type and sizes are, whichever
columns are keys, and whatever the database can do. The definition has the type of this line,
between the name and the line break that are asked for. -/
theorem columnDefinition_eq_table (tokens : TypeTokens) (capabilities : Capabilities)
    (column : Column) (keys : KeyColumns) :
    (∃! rule, TypeRule.Applies capabilities column keys rule) ∧
    ∀ rule, TypeRule.Applies capabilities column keys rule → ∀ withName withLineBreak,
      columnDefinition tokens capabilities column keys withName withLineBreak =
        (if withName then column.name ++ " " else "") ++ rule.text column tokens ++
          (if withLineBreak then "\n" else "") := by
  constructor
  · obtain ⟨rule, applies⟩ := TypeRule.exists_applies capabilities column keys
    exact ⟨rule, applies, fun other another => another.unique applies⟩
  · intro rule applies withName withLineBreak
    rw [columnDefinition, TypeRule.columnType_of_applies tokens applies]

end VendorSql
