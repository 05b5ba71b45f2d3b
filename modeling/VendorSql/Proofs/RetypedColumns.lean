import VendorSql.Proofs.ColumnNames
import VendorSql.Proofs.SpelledTypes

/-!
# Changing the type of a column

Where a vendor changes the type of a column by ALTER COLUMN, what is written in the place of the
type has to be a type and nothing else. It is the type of the column as a definition of the column
would spell it, so it is bare for every column but one: the type of a numeric key makes it the
primary key, and may have the database number it, and no ALTER COLUMN takes either.
-/
namespace VendorSql

/-- The constraint that the type of a key carries. -/
def keyConstraint : String := "PRIMARY KEY"

namespace TypeTokens

/-- No token of a vendor but the key has the letter K. -/
theorem Bare.not_constrained {vendor : Vendor} {type : String} (bare : vendor.tokens.Bare type) :
    ¬keyConstraint.toList <:+: type.toList := by
  have absent : ∀ token ∈ vendor.tokens.plain, 'K' ∉ token.toList := by
    cases vendor <;> simp [Vendor.tokens, plain]
  exact bare.not_infix (by simp [keyConstraint]) absent (by decide) (by decide)
    (by simp [keyConstraint, unknownTypeMarker])

theorem Bare.not_numbered {vendor : Vendor} {type : String} (bare : vendor.tokens.Bare type) :
    ¬vendor.tokens.autoIncrement.toList <:+: type.toList := by
  have longer : unknownTypeMarker.toList.length < vendor.tokens.autoIncrement.toList.length := by
    cases vendor <;> simp [Vendor.tokens, unknownTypeMarker]
  -- The clause is of several words. Where a type may be too, it is told by the letter F.
  obtain ⟨c, inside, absent, apart, digitless⟩ : ∃ c ∈ vendor.tokens.autoIncrement.toList,
      (∀ token ∈ vendor.tokens.plain, c ∉ token.toList) ∧ c ∉ ['(', ',', ')'] ∧
        c.isDigit = false := by
    cases vendor with
    | sqlServer | mySql => exact ⟨' ', by simp [Vendor.tokens, plain]⟩
    | postgreSql | generic => exact ⟨'F', by simp [Vendor.tokens, plain]⟩
  exact bare.not_infix inside absent apart digitless longer

end TypeTokens

namespace Vendor

theorem tokens_key (vendor : Vendor) : vendor.tokens.key = "BIGINT " ++ keyConstraint := by
  cases vendor <;> rfl

theorem constrained_spell_key (vendor : Vendor) (autoIncrement : Bool) :
    keyConstraint.toList <:+: ((ColumnType.key autoIncrement).spell vendor.tokens).toList := by
  have constrained : keyConstraint.toList <:+: vendor.tokens.key.toList := by
    rw [tokens_key, String.toList_append]
    exact (List.suffix_append _ _).isInfix
  cases autoIncrement with
  | false => exact constrained
  | true =>
    simp only [ColumnType.spell, if_true, String.toList_append]
    exact constrained.trans (List.prefix_append _ _).isInfix

/-- It says that the database numbers the key exactly if that is asked for. -/
theorem numbered_spell_key_iff (vendor : Vendor) (autoIncrement : Bool) :
    vendor.tokens.autoIncrement.toList <:+:
        ((ColumnType.key autoIncrement).spell vendor.tokens).toList ↔
      autoIncrement = true := by
  cases autoIncrement with
  | false =>
    -- What makes a key of a type is told from what numbers it by a letter again.
    obtain ⟨c, inside, absent⟩ : ∃ c ∈ vendor.tokens.autoIncrement.toList,
        c ∉ vendor.tokens.key.toList := by
      cases vendor with
      | sqlServer | postgreSql | generic => exact ⟨'D', by simp [tokens]⟩
      | mySql => exact ⟨'U', by simp [tokens]⟩
    simp only [Bool.false_eq_true, iff_false]
    intro occurs
    exact absent (occurs.subset inside)
  | true =>
    simp only [ColumnType.spell, if_true, String.toList_append, iff_true]
    exact (List.suffix_append _ _).isInfix

end Vendor

/-- In a statement that changes a column by ALTER COLUMN, the type is bare unless the column is a
numeric key. The type of a numeric key carries the constraint, and also what makes the database
number the keys if that is asked for. -/
theorem modifyColumn_bare_iff (vendor : Vendor) (retypes : vendor ≠ .mySql)
    (attributes : Attributes) (table : String) (column : Column) (keys : KeyColumns) :
    let profile := (vendor.configure attributes).result
    let type := profile.define column keys false false
    let numericKey := column.logicalType.isNumeric = true ∧ column.isKey keys = true
    profile.modifyColumn table column keys =
        "ALTER TABLE " ++ table ++ " ALTER COLUMN " ++ column.name ++
          Alteration.modify.closing vendor type ∧
      (profile.tokens.Bare type ↔ ¬numericKey) ∧
      (keyConstraint.toList <:+: type.toList ↔ numericKey) ∧
      (profile.tokens.autoIncrement.toList <:+: type.toList ↔
        numericKey ∧ keys.autoIncrement = true) := by
  intro profile type numericKey
  have stated : profile.modifyColumn table column keys =
      Alteration.modify.opening vendor table ++ column.name ++
        Alteration.modify.closing vendor type :=
    Alteration.modify.statement_eq vendor (.ofAttributes attributes) table column keys
  have opening : Alteration.modify.opening vendor table =
      "ALTER TABLE " ++ table ++ " ALTER COLUMN " := by
    cases vendor with
    | mySql => exact absurd rfl retypes
    | sqlServer | postgreSql | generic => rfl
  have tokens : profile.tokens = vendor.tokens := vendor.profile_tokens _
  have spelled : type = columnType vendor.tokens profile.capabilities column keys := by
    simp [type, Profile.define, columnDefinition, tokens]
  refine ⟨opening ▸ stated, ?_⟩
  rw [tokens]
  by_cases key : numericKey
  · have keyed : type = (ColumnType.key keys.autoIncrement).spell vendor.tokens := by
      rw [spelled, columnType, ColumnType.ofColumn_of_key key.1 key.2]
    have constrained := vendor.constrained_spell_key keys.autoIncrement
    have numbered := vendor.numbered_spell_key_iff keys.autoIncrement
    rw [← keyed] at constrained numbered
    -- A type with the constraint is not bare.
    have more : ¬vendor.tokens.Bare type := fun bare => bare.not_constrained constrained
    exact ⟨by simp [key, more], by simp [key, constrained], by simp [key, numbered]⟩
  · have bare : vendor.tokens.Bare type := by
      rw [spelled]
      exact ColumnType.bare_columnType vendor.tokens key
    have free := bare.not_constrained
    have unnumbered := bare.not_numbered
    exact ⟨by simp [key, bare], by simp [key, free], by simp [key, unnumbered]⟩

/-- A key of which it is not asked that the database number it is changed to a key nonetheless. -/
theorem modifyColumn_bare_iff_key :
    let profile := (Vendor.generic.configure .empty).result
    let column : Column := { name := "ID", logicalType := .number, length := 12, precision := 2 }
    let keys : KeyColumns := { primary := some "id" }
    let type := profile.define column keys false false
    Vendor.generic ≠ .mySql ∧ ¬profile.tokens.Bare type ∧ keyConstraint.toList <:+: type.toList ∧
      ¬profile.tokens.autoIncrement.toList <:+: type.toList := by
  intro profile column keys type
  have key : column.logicalType.isNumeric = true ∧ column.isKey keys = true := by
    decide +kernel
  obtain ⟨-, bare, constrained, numbered⟩ :=
    modifyColumn_bare_iff .generic (by decide) .empty "t" column keys
  refine ⟨by decide, fun only => bare.mp only key, constrained.mpr key, ?_⟩
  intro clause
  have asked := (numbered.mp clause).2
  cases asked

/-- A column that is the key already is made the primary key again, where only a type may stand. -/
theorem modifyColumn_rekeys :
    let profile := (Vendor.postgreSql.configure .empty).result
    let column : Column := { name := "id", logicalType := .integer }
    let keys : KeyColumns := { technical := some "id", autoIncrement := true }
    profile.modifyColumn "t" column keys =
        "ALTER TABLE t ALTER COLUMN id TYPE BIGINT PRIMARY KEY GENERATED BY DEFAULT AS IDENTITY" ∧
      ¬profile.tokens.Bare (profile.define column keys false false) := by
  intro profile column keys
  have constrained : keyConstraint.toList <:+:
      (profile.define column keys false false).toList := by
    decide +kernel
  refine ⟨by decide +kernel, ?_⟩
  intro (bare : Vendor.postgreSql.tokens.Bare _)
  exact bare.not_constrained constrained

end VendorSql
