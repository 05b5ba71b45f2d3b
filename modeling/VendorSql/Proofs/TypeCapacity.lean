import VendorSql.Proofs.SpelledTypes
import VendorSql.Text.Parts
import Mathlib.Data.Rat.Cast.Order
import Mathlib.Tactic.Linarith
import Mathlib.Tactic.NormNum

/-!
# Types are wide enough

A database reads the text of a type and stores what that type can hold: whole numbers of 32 or 64
bits, decimals of so many digits, strings of so many characters, or strings of any length. Read in
this way, the type that is written for a column holds every value the sizes of the column announce.
The two bounds of the decision table, 9 and 18 digits, are the greatest for which this is true of
the two widths of integers, and no vendor writes an inline string type at or above its own limit.
-/
namespace VendorSql

/-- What can be stored in a column, as a database reads it from the text of a type. -/
inductive StorageType where
  | integer (bits : Nat)
  /-- So many digits, of which the last `places` stand behind the point. -/
  | decimal (digits places : Nat)
  | varchar (length : Nat)
  | largeText
  deriving Repr, DecidableEq

namespace StorageType

def ofName? (name : String) : Option StorageType :=
  if name ∈ ["INT", "INTEGER"] then some (.integer 32)
  else if name = "BIGINT" then some (.integer 64)
  else if name ∈ ["TEXT", "LONGTEXT", "CLOB"] then some .largeText
  else none

def ofSizes? (name : String) (sizes : List Nat) : Option StorageType :=
  if name ∈ ["DECIMAL", "NUMERIC"] then
    match sizes with
    | [digits] => some (.decimal digits 0)
    | [digits, places] => some (.decimal digits places)
    | _ => none
  else if name = "VARCHAR" then
    match sizes with
    | [length] => some (.varchar length)
    | _ => none
  else none

/-- The numbers between a parenthesis that has been read and the one that ends the text. -/
def readSizes? (text : List Char) : Option (List Nat) :=
  match text.reverse with
  | ')' :: inside => (Text.parts ',' inside.reverse).mapM Number.readNat?
  | _ => none

/-- Reads the type of a numeric or string column: a name, or a name with sizes in parentheses. -/
def read? (type : String) : Option StorageType :=
  match Text.splitFirst? '(' type.toList with
  | none => ofName? type
  | some (name, rest) => (readSizes? rest).bind (ofSizes? (String.ofList name))

def HoldsNumber : StorageType → ℚ → Prop
  | integer bits, number => ∃ n : ℤ, number = n ∧ -2 ^ (bits - 1) ≤ n ∧ n < 2 ^ (bits - 1)
  | decimal digits places, number => ∃ n : ℤ, number = n / 10 ^ places ∧ |n| < 10 ^ digits
  | varchar _, _ | largeText, _ => False

def HoldsText : StorageType → String → Prop
  | varchar length, text => text.length ≤ length
  | largeText, _ => True
  | integer _, _ | decimal _ _, _ => False

/-! ### What the types hold -/

theorem holdsNumber_integer {bits digits : Nat} (wide : (10 : ℤ) ^ digits ≤ 2 ^ (bits - 1)) {z : ℤ}
    (short : |z| < 10 ^ digits) : (integer bits).HoldsNumber z := by
  obtain ⟨below, above⟩ := abs_lt.mp short
  exact ⟨z, rfl, by linarith, by linarith⟩

theorem holdsNumber_decimal {digits : Nat} {z : ℤ} (short : |z| < 10 ^ digits) (places : Nat) :
    (decimal digits places).HoldsNumber (z / 10 ^ places) :=
  ⟨z, rfl, short⟩

/-! ### How the types are read -/

theorem comma_not_mem_toDigits (n : Nat) : ',' ∉ Nat.toDigits 10 n := by
  intro member
  have digit := Nat.isDigit_of_mem_toDigits (by decide) (by decide) member
  cases digit

theorem readSizes?_one (n : Nat) :
    readSizes? (Nat.toDigits 10 n ++ [')']) = some [n] := by
  simp [readSizes?, Text.parts_of_not_mem (comma_not_mem_toDigits n), Number.readNat?_toDigits]

theorem readSizes?_two (n m : Nat) :
    readSizes? (Nat.toDigits 10 n ++ ',' :: (Nat.toDigits 10 m ++ [')'])) = some [n, m] := by
  simp [readSizes?, Text.parts_append (comma_not_mem_toDigits n),
    Text.parts_of_not_mem (comma_not_mem_toDigits m), Number.readNat?_toDigits]

/-- A type with sizes is read by its name and by what stands between the parentheses. -/
theorem read?_sized {name : String} (unopened : '(' ∉ name.toList) (sizes : List Char) :
    read? (name ++ String.ofList ('(' :: sizes)) = (readSizes? sizes).bind (ofSizes? name) := by
  simp [read?, Text.splitFirst?_append unopened]

theorem read?_decimal {vendor : Vendor} (n m : Nat) :
    read? ((ColumnType.decimal n m).spell vendor.tokens) = some (.decimal n m) := by
  have text : (ColumnType.decimal n m).spell vendor.tokens = vendor.tokens.decimal ++
      String.ofList ('(' :: (Nat.toDigits 10 n ++ ',' :: (Nat.toDigits 10 m ++ [')']))) := by
    rw [← String.toList_inj]
    simp [ColumnType.spell, Number.decimal, Number.decimalChars]
  rw [text, read?_sized (by cases vendor <;> decide), readSizes?_two]
  cases vendor <;> rfl

theorem read?_varchar {vendor : Vendor} (n : Nat) :
    read? ((ColumnType.varchar n).spell vendor.tokens) = some (.varchar n) := by
  have text : (ColumnType.varchar n).spell vendor.tokens = vendor.tokens.varchar ++
      String.ofList ('(' :: (Nat.toDigits 10 n ++ [')'])) := by
    rw [← String.toList_inj]
    simp [ColumnType.spell, Number.decimal, Number.decimalChars]
  rw [text, read?_sized (by cases vendor <;> decide), readSizes?_one]
  cases vendor <;> rfl

/-- Only what begins like an inline string type is read as one. -/
theorem varchar_isPrefix_of_read? {type : String} {k : Nat}
    (read : read? type = some (.varchar k)) : "VARCHAR(".toList <+: type.toList := by
  unfold read? at read
  split at read
  next =>
    unfold ofName? at read
    split_ifs at read <;> cases read
  next name rest split =>
    obtain ⟨text, -⟩ := Text.splitFirst?_eq_some split
    obtain ⟨sizes, -, sized⟩ := Option.bind_eq_some_iff.mp read
    -- Of the names that take sizes only one is read as a string type.
    have named : String.ofList name = "VARCHAR" := by
      unfold ofSizes? at sized
      split_ifs at sized with decimal varchar
      · split at sized <;> cases sized
      · exact varchar
    rw [text, ← String.toList_ofList (l := name), named]
    exact ⟨rest, rfl⟩

/-- Only the type of strings with a limit is read as one. -/
theorem eq_varchar_of_read? {vendor : Vendor} {type : ColumnType} {k : Nat}
    (read : read? (type.spell vendor.tokens) = some (.varchar k)) :
    ∃ length, type = .varchar length := by
  have begins := varchar_isPrefix_of_read? read
  cases type with
  | varchar length => exact ⟨length, rfl⟩
  | decimal length precision =>
    -- The first letters differ already.
    obtain ⟨rest, whole⟩ := begins
    exfalso
    revert whole
    cases vendor <;> simp [ColumnType.spell, Vendor.tokens]
  | key autoIncrement =>
    exfalso
    revert begins
    cases vendor <;> cases autoIncrement <;> decide
  | _ =>
    exfalso
    revert begins
    cases vendor <;> decide

end StorageType

/-! ### What the decision table writes -/

namespace ColumnType

open StorageType (read?)

theorem ofColumn_of_number {capabilities : Capabilities} {column : Column} {keys : KeyColumns}
    (numeric : column.logicalType.isNumeric = true) (keyless : column.isKey keys = false) :
    ofColumn capabilities column keys = ofSizes column.length.toInt column.precision.toInt := by
  cases kind : column.logicalType <;> simp [kind, LogicalType.isNumeric] at numeric <;>
    simp [ofColumn, kind, keyless]

/-- The type of a whole number of so many digits holds all of them. -/
theorem holdsNumber_ofSizes (vendor : Vendor) (digits : Nat) :
    ∃ stored, read? ((ofSizes digits 0).spell vendor.tokens) = some stored ∧
      ∀ z : ℤ, |z| < 10 ^ digits → stored.HoldsNumber z := by
  -- As many digits as the bounds allow fit the width, and so do fewer.
  have fits (most : Nat) {bits : Nat} (few : digits ≤ most)
      (wide : (10 : ℤ) ^ most ≤ 2 ^ (bits - 1)) : (10 : ℤ) ^ digits ≤ 2 ^ (bits - 1) :=
    (pow_le_pow_right₀ (by norm_num) few).trans wide
  unfold ofSizes
  rw [if_pos rfl]
  split
  next =>
    refine ⟨.decimal digits 0, StorageType.read?_decimal digits 0, ?_⟩
    intro z short
    simpa using StorageType.holdsNumber_decimal short 0
  next =>
    split
    next =>
      refine ⟨.integer 64, by cases vendor <;> decide, ?_⟩
      intro z short
      exact StorageType.holdsNumber_integer (fits 18 (by omega) (by norm_num)) short
    next =>
      refine ⟨.integer 32, by cases vendor <;> decide, ?_⟩
      intro z short
      exact StorageType.holdsNumber_integer (fits 9 (by omega) (by norm_num)) short

theorem read?_ofSizes (vendor : Vendor) {digits places : Nat} (some : 0 < places)
    (fitting : places ≤ digits) :
    read? ((ofSizes digits places).spell vendor.tokens) = .some (.decimal digits places) := by
  unfold ofSizes
  rw [if_neg (by omega), if_pos (by omega)]
  exact StorageType.read?_decimal digits places

theorem holdsText_ofStringLength (vendor : Vendor) (limit : Int) {length : Nat}
    (given : 0 < length) :
    ∃ stored, read? ((ofStringLength limit length).spell vendor.tokens) = some stored ∧
      ∀ text : String, text.length ≤ length → stored.HoldsText text := by
  unfold ofStringLength
  split
  next => exact ⟨.varchar length, StorageType.read?_varchar length, fun _ short => short⟩
  next =>
    rw [if_neg (by omega)]
    exact ⟨.largeText, by cases vendor <;> decide, fun _ _ => trivial⟩

/-- An inline string type is written for a string column only, and with a length below the limit. -/
theorem lt_of_ofColumn_eq_varchar {capabilities : Capabilities} {column : Column}
    {keys : KeyColumns} {length : Int}
    (roomy : defaultVarcharLength < capabilities.maxInlineVarchar.toInt)
    (inline : ofColumn capabilities column keys = .varchar length) :
    0 ≤ length ∧ length < capabilities.maxInlineVarchar.toInt := by
  have positive : (0 : Int) ≤ defaultVarcharLength := by decide
  -- Only strings have a length that is spelled, one that is given or the default.
  cases kind : column.logicalType with
  | string =>
    simp only [ofColumn, kind, ofStringLength] at inline
    split_ifs at inline
    · cases inline
      omega
    · cases inline
      omega
  | boolean | number | integer | bigNumber =>
    simp only [ofColumn, kind, ofSizes] at inline
    split_ifs at inline
  | date | timestamp | binary | unknown =>
    simp only [ofColumn, kind] at inline
    cases inline

end ColumnType

namespace Vendor

theorem define_eq_spell (vendor : Vendor) (settings : Settings) (column : Column)
    (keys : KeyColumns) :
    (vendor.profile settings).define column keys false false =
      (ColumnType.ofColumn (vendor.profile settings).capabilities column keys).spell
        vendor.tokens := by
  simp [Profile.define, columnDefinition, columnType]

/-- Strings without a length are short enough for every vendor to store them inline. -/
theorem default_lt_maxInlineVarchar (vendor : Vendor) (settings : Settings) :
    defaultVarcharLength < (vendor.profile settings).capabilities.maxInlineVarchar.toInt := by
  have limit : (vendor.profile settings).capabilities.maxInlineVarchar =
      vendor.capabilities.maxInlineVarchar := by cases vendor <;> rfl
  rw [limit]
  cases vendor <;> decide

end Vendor

/-- Whatever the sizes of a column, the type that a built-in profile writes for it is wide enough.
A number that is no key, with so many digits and none behind the point, gets a type that holds every
whole number of as many digits; with some of them behind the point it gets the exact decimal. A
string gets a type that holds every text of its length, or the default length if it gives none. And
wherever an inline string type is written, its length is below the limit of the vendor. -/
theorem holds_define (vendor : Vendor) (attributes : Attributes) (column : Column)
    (keys : KeyColumns) :
    let profile := (vendor.configure attributes).result
    let type := StorageType.read? (profile.define column keys false false)
    let length := column.length.toInt
    let precision := column.precision.toInt
    (column.logicalType.isNumeric = true → column.isKey keys = false →
      (1 ≤ length → precision = 0 → ∃ stored, type = some stored ∧
        ∀ z : ℤ, |z| < 10 ^ length.toNat → stored.HoldsNumber z) ∧
      (1 ≤ precision → precision ≤ length → ∃ digits places, type = some (.decimal digits places) ∧
        ∀ z : ℤ, |z| < 10 ^ length.toNat →
          (StorageType.decimal digits places).HoldsNumber (z / 10 ^ precision.toNat))) ∧
    (column.logicalType = .string →
      (1 ≤ length → ∃ stored, type = some stored ∧
        ∀ text : String, text.length ≤ length → stored.HoldsText text) ∧
      (length ≤ 0 → type = some (.varchar defaultVarcharLength.toNat))) ∧
    ∀ k, type = some (.varchar k) → k < profile.capabilities.maxInlineVarchar.toInt := by
  intro profile type length precision
  have read : type = StorageType.read?
      ((ColumnType.ofColumn profile.capabilities column keys).spell vendor.tokens) :=
    congrArg StorageType.read? (vendor.define_eq_spell (.ofAttributes attributes) column keys)
  refine ⟨?_, ?_, ?_⟩
  · intro numeric keyless
    have decided : type =
        StorageType.read? ((ColumnType.ofSizes length precision).spell vendor.tokens) := by
      rw [read, ColumnType.ofColumn_of_number numeric keyless]
    clear_value length precision
    rw [decided]
    refine ⟨?_, ?_⟩
    · intro given whole
      lift length to ℕ using by omega
      rw [whole, Int.toNat_natCast]
      exact ColumnType.holdsNumber_ofSizes vendor length
    · intro placed fitting
      lift precision to ℕ using by omega
      lift length to ℕ using by omega
      rw [Int.toNat_natCast, Int.toNat_natCast]
      refine ⟨length, precision, ColumnType.read?_ofSizes vendor (by omega) (by omega), ?_⟩
      intro z short
      exact StorageType.holdsNumber_decimal short precision
  · intro kind
    have decided : type = StorageType.read? ((ColumnType.ofStringLength
        profile.capabilities.maxInlineVarchar.toInt length).spell vendor.tokens) := by
      simp only [read, ColumnType.ofColumn, kind, length]
    clear_value length
    rw [decided]
    refine ⟨?_, ?_⟩
    · intro given
      lift length to ℕ using by omega
      simp only [Nat.cast_le]
      exact ColumnType.holdsText_ofStringLength vendor _ (by omega)
    · intro unspecified
      rw [ColumnType.ofStringLength, if_neg (by omega), if_pos unspecified]
      exact StorageType.read?_varchar (Int.toNat defaultVarcharLength)
  · intro k inline
    rw [read] at inline
    obtain ⟨size, same⟩ := StorageType.eq_varchar_of_read? inline
    obtain ⟨counted, below⟩ := ColumnType.lt_of_ofColumn_eq_varchar
      (vendor.default_lt_maxInlineVarchar (.ofAttributes attributes)) same
    -- The length that is read is the one that was written.
    lift size to ℕ using counted
    rw [same, StorageType.read?_varchar] at inline
    cases inline
    exact below

/-- The most digits that an integer type is written for, in a column whose name is that of a key in
part only. -/
theorem holds_define_widest :
    let profile := (Vendor.mySql.configure .empty).result
    let keys : KeyColumns := { primary := some "id" }
    let total : Column := { name := "id2", logicalType := .bigNumber, length := 18 }
    let price : Column := { total with precision := 18 }
    let note : Column := { name := "note", logicalType := .string, length := 16384 }
    (total.logicalType.isNumeric = true ∧ total.isKey keys = false ∧
      1 ≤ total.length.toInt ∧ total.precision.toInt = 0 ∧
      ∃ stored, StorageType.read? (profile.define total keys false false) = some stored ∧
        stored.HoldsNumber (-999999999999999999 : ℤ)) ∧
    (1 ≤ price.precision.toInt ∧ price.precision.toInt ≤ price.length.toInt ∧
      ∃ digits places, StorageType.read? (profile.define price keys false false) =
          some (.decimal digits places) ∧
        (StorageType.decimal digits places).HoldsNumber ((-999999999999999999 : ℤ) / 10 ^ 18)) ∧
    (note.logicalType = .string ∧ 1 ≤ note.length.toInt ∧
      ∃ stored, StorageType.read? (profile.define note keys false false) = some stored ∧
        stored.HoldsText (String.ofList (List.replicate 16384 'ä'))) ∧
    StorageType.read? (profile.define { note with length := 16383 } keys false false) =
        some (.varchar 16383) ∧
      (16383 : ℕ) < profile.capabilities.maxInlineVarchar.toInt := by
  intro profile keys total price note
  have inline : StorageType.read? (profile.define { note with length := 16383 } keys false false) =
      some (.varchar 16383) := by decide +kernel
  obtain ⟨totals, -, -⟩ := holds_define .mySql .empty total keys
  obtain ⟨prices, -, -⟩ := holds_define .mySql .empty price keys
  obtain ⟨-, notes, -⟩ := holds_define .mySql .empty note keys
  obtain ⟨-, -, below⟩ := holds_define .mySql .empty { note with length := 16383 } keys
  refine ⟨⟨rfl, by decide +kernel, by decide, by decide, ?_⟩, ⟨by decide, by decide, ?_⟩,
    ⟨rfl, by decide, ?_⟩, inline, below 16383 inline⟩
  · obtain ⟨stored, read, holds⟩ := (totals rfl (by decide +kernel)).1 (by decide) (by decide)
    exact ⟨stored, read, holds _ (by decide +kernel)⟩
  · obtain ⟨digits, places, read, holds⟩ :=
      (prices rfl (by decide +kernel)).2 (by decide) (by decide)
    exact ⟨digits, places, read, holds _ (by decide +kernel)⟩
  · obtain ⟨stored, read, holds⟩ := (notes rfl).1 (by decide)
    refine ⟨stored, read, holds _ ?_⟩
    rw [String.length_ofList, List.length_replicate]
    decide

end VendorSql
