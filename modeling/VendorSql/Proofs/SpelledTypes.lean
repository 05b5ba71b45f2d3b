import VendorSql.Vendor.Builtin
import Mathlib.Data.List.Infix
import Mathlib.Tactic.SplitIfs

/-!
# Spelled types

The type of a column is spelled as one token of the vendor, with its sizes in parentheses where it
has some. There are two exceptions. A type that is unknown has no spelling and is marked instead,
and no other type is spelled like the mark. A numeric key has the key type, and that is more than a
type: it makes the column the primary key, and may have the database number it.
-/
namespace VendorSql

namespace TypeTokens

/-- The tokens that name a type and say nothing else. -/
def plain (tokens : TypeTokens) : List String :=
  [tokens.date, tokens.timestamp, tokens.boolean, tokens.booleanFlag, tokens.decimal,
    tokens.bigInteger, tokens.integer, tokens.double, tokens.varchar, tokens.largeText,
    tokens.largeBinary]

/-- A type and nothing else: a token, with one or two sizes if need be, or the mark of a type that
is unknown. -/
inductive Bare (tokens : TypeTokens) : String → Prop
  | token {token : String} (named : token ∈ tokens.plain) : Bare tokens token
  | sized {token : String} (named : token ∈ tokens.plain) (n : Nat) :
    Bare tokens (token ++ "(" ++ Number.decimal n ++ ")")
  | scaled {token : String} (named : token ∈ tokens.plain) (n m : Nat) :
    Bare tokens (token ++ "(" ++ Number.decimal n ++ "," ++ Number.decimal m ++ ")")
  | unmapped : Bare tokens unknownTypeMarker

theorem isDigit_of_mem_decimal {n : Nat} {c : Char} (member : c ∈ (Number.decimal n).toList) :
    c.isDigit = true := by
  rw [Number.decimal, String.toList_ofList] at member
  have digit : c ∈ Nat.toDigits 10 n := member
  exact Nat.isDigit_of_mem_toDigits (by decide) (by decide) digit

/-- A text occurs in no bare type if it has a character that is in no token and in no size, and is
too long for the mark. -/
theorem Bare.not_infix {tokens : TypeTokens} {text type : String} {c : Char}
    (bare : tokens.Bare type) (inside : c ∈ text.toList)
    (absent : ∀ token ∈ tokens.plain, c ∉ token.toList)
    (apart : c ∉ ['(', ',', ')']) (digitless : c.isDigit = false)
    (longer : unknownTypeMarker.toList.length < text.toList.length) :
    ¬text.toList <:+: type.toList := by
  intro occurs
  have member := occurs.subset inside
  have sizes (n : Nat) : c ∉ (Number.decimal n).toList := by
    intro digit
    rw [isDigit_of_mem_decimal digit] at digitless
    cases digitless
  simp only [List.mem_cons, List.not_mem_nil, or_false, not_or] at apart
  -- A token holds none of the characters, sizes hold digits only, and the marker is too short.
  cases bare with
  | token named => exact absent _ named member
  | sized named n => simp [absent _ named, sizes, apart] at member
  | scaled named n m => simp [absent _ named, sizes, apart] at member
  | unmapped =>
    have fits := occurs.length_le
    omega

end TypeTokens

namespace ColumnType

/-! ### What the columns decide -/

theorem ofColumn_of_key {capabilities : Capabilities} {column : Column} {keys : KeyColumns}
    (numeric : column.logicalType.isNumeric = true) (key : column.isKey keys = true) :
    ofColumn capabilities column keys = .key keys.autoIncrement := by
  cases kind : column.logicalType <;> simp [kind, LogicalType.isNumeric] at numeric <;>
    simp [ofColumn, kind, key]

/-- Only the unknown type is left unmapped. -/
theorem ofColumn_eq_unmapped_iff (capabilities : Capabilities) (column : Column)
    (keys : KeyColumns) :
    ofColumn capabilities column keys = .unmapped ↔ column.logicalType = .unknown := by
  cases kind : column.logicalType with
  | date | timestamp | binary | unknown => simp [ofColumn, kind]
  | boolean | string | number | integer | bigNumber =>
    simp only [ofColumn, ofSizes, ofStringLength, kind]
    split_ifs <;> simp

/-! ### How they are spelled -/

section

variable (tokens : TypeTokens)

theorem bare_ofSizes (length precision : Int) :
    tokens.Bare ((ofSizes length precision).spell tokens) := by
  -- The sizes are not negative where they are written, so they are written as numbers.
  have decimal {n m : Int} (counted : 0 ≤ n) (placed : 0 ≤ m) :
      tokens.Bare ((ColumnType.decimal n m).spell tokens) := by
    lift n to ℕ using counted
    lift m to ℕ using placed
    exact .scaled (by simp [TypeTokens.plain]) n m
  unfold ofSizes
  split
  · split
    · exact decimal (by omega) (by omega)
    · split
      · exact .token (by simp [spell, TypeTokens.plain])
      · exact .token (by simp [spell, TypeTokens.plain])
  · split
    · exact decimal (by omega) (by omega)
    · exact .token (by simp [spell, TypeTokens.plain])

theorem bare_ofStringLength (limit length : Int) :
    tokens.Bare ((ofStringLength limit length).spell tokens) := by
  have varchar {n : Int} (counted : 0 ≤ n) :
      tokens.Bare ((ColumnType.varchar n).spell tokens) := by
    lift n to ℕ using counted
    exact .sized (by simp [TypeTokens.plain]) n
  unfold ofStringLength
  split
  · exact varchar (by omega)
  · split
    · exact varchar (by decide)
    · exact .token (by simp [spell, TypeTokens.plain])

/-- Only a key that is numeric has a type that says more than a type. -/
theorem bare_columnType {capabilities : Capabilities} {column : Column} {keys : KeyColumns}
    (common : ¬(column.logicalType.isNumeric = true ∧ column.isKey keys = true)) :
    tokens.Bare (columnType tokens capabilities column keys) := by
  unfold columnType ofColumn
  cases kind : column.logicalType with
  | date | timestamp | binary => exact .token (by simp [spell, TypeTokens.plain])
  | boolean =>
    simp only
    split <;> exact .token (by simp [spell, TypeTokens.plain])
  | number | integer | bigNumber =>
    have keyless : ¬column.isKey keys = true := fun key => common ⟨by rw [kind]; rfl, key⟩
    simp only [if_neg keyless]
    exact bare_ofSizes tokens _ _
  | string => exact bare_ofStringLength tokens _ _
  | unknown => exact .unmapped

end

/-- No type that a built-in vendor spells is spelled like the mark. -/
theorem spell_eq_marker_iff (vendor : Vendor) (type : ColumnType) :
    type.spell vendor.tokens = unknownTypeMarker ↔ type = .unmapped := by
  constructor
  · intro same
    cases type with
    | unmapped => rfl
    | decimal length precision =>
      -- A type with sizes has a parenthesis, and the mark has none.
      have opened : '(' ∈ ((ColumnType.decimal length precision).spell vendor.tokens).toList := by
        simp [spell]
      rw [same] at opened
      simp [unknownTypeMarker] at opened
    | varchar length =>
      have opened : '(' ∈ ((ColumnType.varchar length).spell vendor.tokens).toList := by
        simp [spell]
      rw [same] at opened
      simp [unknownTypeMarker] at opened
    | key autoIncrement => revert same; cases vendor <;> cases autoIncrement <;> decide
    | _ => revert same; cases vendor <;> decide
  · rintro rfl
    rfl

end ColumnType

/-- The mark stands in place of a type exactly if the type of the column is unknown. -/
theorem Vendor.define_eq_marker_iff (vendor : Vendor) (settings : Settings) (column : Column)
    (keys : KeyColumns) :
    (vendor.profile settings).define column keys false false = unknownTypeMarker ↔
      column.logicalType = .unknown := by
  rw [← ColumnType.ofColumn_eq_unmapped_iff (vendor.profile settings).capabilities column keys,
    ← ColumnType.spell_eq_marker_iff vendor]
  simp [Profile.define, columnDefinition, columnType]

end VendorSql
