import VendorSql.Proofs.CompactJson
import VendorSql.Record
import Mathlib.Data.List.Nodup

/-!
# Columns and capabilities read back

What is written of a column or of capabilities is read back as it was. A table with every field
under its own name is a record again, each field goes through a notation of its own, and the ports
keep their order because no access mode occurs twice. The name of a type is never refused: it leads
to the type of that name, and to the unknown one where there is none.
-/
namespace VendorSql

/-! ### Records -/

/-- Under names that differ, each value is found by its own name. -/
theorem lookup_zip {names : List String} (distinct : names.Nodup) {data : List Datum}
    (full : names.length = data.length) :
    (names.map fun name => (names.zip data).lookup name) = data.map some := by
  induction names generalizing data with
  | nil =>
    cases data with
    | nil => rfl
    | cons datum data => cases full
  | cons name names ih =>
    cases data with
    | nil => cases full
    | cons datum data =>
      obtain ⟨absent, distinct⟩ := List.nodup_cons.mp distinct
      have others := ih distinct (Nat.succ.inj full)
      simp only [List.zip_cons_cons, List.map_cons, List.lookup_cons_self, ← others]
      congr 1
      apply List.map_congr_left
      intro other member
      -- A later name is another one, so the first entry does not hide its own.
      have differ : (other == name) = false := beq_false_of_ne fun same => absent (same ▸ member)
      rw [List.lookup_cons, differ]

/-- Fields written under their names are read back in order. -/
theorem record?_zip {names : List String} (distinct : names.Nodup) (data : List Datum)
    (full : names.length = data.length) :
    (Datum.table (names.zip data)).record? names = some (data.map some) := by
  have once : ∀ name, (names.zip data).countP (·.1 == name) ≤ 1 := by
    intro name
    have keys : (names.zip data).map Prod.fst = names := List.map_fst_zip full.le
    have counted := List.nodup_iff_count_le_one.mp distinct name
    rw [← keys, List.count, List.countP_map] at counted
    exact counted
  simp [Datum.record?, once, lookup_zip distinct full]

/-- A table is read as it was written if each of its entries is. -/
theorem Json.readsAs_same {entries : List (String × Datum)}
    (parts : ∀ entry ∈ entries, Json.ReadsAs entry.2 entry.2) :
    Json.ReadsAs (.table entries) (.table entries) :=
  Json.readsAs_table (List.forall₂_same.mpr fun entry member => ⟨rfl, parts entry member⟩)

/-! ### Columns -/

theorem Json.readsAs_int32 (value : Int32) :
    Json.ReadsAs (.int value.toInt) (.int value.toInt) := by
  have low := Int32.le_toInt value
  have high := Int32.toInt_lt value
  exact Json.readsAs_int ⟨by omega, by omega⟩

namespace Column

theorem nodup_fieldNames : fieldNames.Nodup := by
  decide

theorem ofDatum?_toDatum (column : Column) : ofDatum? column.toDatum = some column := by
  have fields : column.toDatum.record? fieldNames = _ :=
    record?_zip nodup_fieldNames [.text column.name, column.logicalType.toDatum,
      .int column.length.toInt, .int column.precision.toInt] rfl
  have type : LogicalType.ofDatum? column.logicalType.toDatum = some column.logicalType := by
    simp [LogicalType.ofDatum?, LogicalType.toDatum, Datum.choice?]
  simp [ofDatum?, fields, Datum.required, Datum.optional, Datum.text?, type, Datum.int32?,
    Datum.int?, Number.int32?_toInt]

theorem readsAs_toDatum (column : Column) : Json.ReadsAs column.toDatum column.toDatum := by
  apply Json.readsAs_same
  intro entry member
  simp only [List.mem_cons, List.not_mem_nil, or_false] at member
  rcases member with rfl | rfl | rfl | rfl
  · exact Json.readsAs_text _
  · exact Json.readsAs_text _
  · exact Json.readsAs_int32 _
  · exact Json.readsAs_int32 _

end Column

/-! ### Capabilities -/

namespace Capabilities

theorem portOfDatum?_portToDatum (port : Option UInt16) :
    portOfDatum? (portToDatum port) = some port := by
  cases port with
  | none => rfl
  | some port => simp [portToDatum, portOfDatum?, Number.uint16?_toNat]

/-- Ports come back in their order, those without a number included. -/
theorem portsOfDatum?_portsToDatum (ports : OrderedMap AccessMode (Option UInt16)) :
    portsOfDatum? (portsToDatum ports) = some ports := by
  simp only [portsOfDatum?, portsToDatum, Datum.table?, Option.bind_eq_bind, Option.bind_some]
  rw [mapM_written, Option.bind_some, OrderedMap.ofList_entries]
  intro entry
  simp [portOfDatum?_portToDatum]

theorem nodup_fieldNames : fieldNames.Nodup := by
  decide

theorem ofDatum?_toDatum (capabilities : Capabilities) :
    ofDatum? capabilities.toDatum = some capabilities := by
  have fields := record?_zip nodup_fieldNames
    [.bool capabilities.catalogs, .bool capabilities.schemas, .bool capabilities.sequences,
      .bool capabilities.sequencesWithoutMaximum, .bool capabilities.bitmapIndexes,
      .bool capabilities.synonyms, .bool capabilities.booleanType,
      .bool capabilities.batchErrorHandling, .bool capabilities.savepoints,
      .int capabilities.maxInlineVarchar.toInt, portsToDatum capabilities.ports] rfl
  simp only [ofDatum?, toDatum, entries, fields, Datum.required, Datum.bool?, Datum.int32?,
    Datum.int?, Number.int32?_toInt, portsOfDatum?_portsToDatum, Option.bind_eq_bind,
    Option.bind_some, List.map_cons, List.map_nil]

theorem readsAs_portToDatum (port : Option UInt16) :
    Json.ReadsAs (portToDatum port) (portToDatum port) := by
  cases port with
  | none => exact Json.readsAs_null
  | some port =>
    have small := port.toNat_lt
    exact Json.readsAs_int ⟨by omega, by omega⟩

theorem readsAs_portsToDatum (ports : OrderedMap AccessMode (Option UInt16)) :
    Json.ReadsAs (portsToDatum ports) (portsToDatum ports) := by
  apply Json.readsAs_same
  intro entry member
  obtain ⟨⟨mode, port⟩, -, rfl⟩ := List.mem_map.mp member
  exact readsAs_portToDatum port

theorem readsAs_toDatum (capabilities : Capabilities) :
    Json.ReadsAs capabilities.toDatum capabilities.toDatum := by
  apply Json.readsAs_same
  rintro ⟨name, datum⟩ member
  have among := (List.of_mem_zip member).2
  simp only [List.mem_cons, List.not_mem_nil, or_false] at among
  rcases among with rfl | rfl | rfl | rfl | rfl | rfl | rfl | rfl | rfl | rfl | rfl
  iterate 9 exact Json.readsAs_bool _
  · exact Json.readsAs_int32 _
  · exact readsAs_portsToDatum _

end Capabilities

/-! ### Names of types -/

namespace LogicalType

/-- The type that a name means: the type of that name, the big number by its second name, or the
unknown type for a name that nothing goes by. -/
inductive NamedBy : String → LogicalType → Prop
  | own (type : LogicalType) : NamedBy type.name type
  | bigDecimal : NamedBy "bigdecimal" bigNumber
  | other {name : String} : (∀ type : LogicalType, type.name ≠ name) → name ≠ "bigdecimal" →
    NamedBy name unknown

theorem name_ofName (name : String) :
    (ofName name).name = name ∨ name = "bigdecimal" ∨ ofName name = unknown := by
  unfold ofName
  split
  iterate 6 exact .inl rfl
  · exact .inr (.inl rfl)
  iterate 2 exact .inl rfl
  · exact .inr (.inr rfl)

theorem ofName_other {name : String} (apart : ∀ type : LogicalType, type.name ≠ name)
    (second : name ≠ "bigdecimal") : ofName name = unknown := by
  rcases name_ofName name with same | same | same
  · exact absurd same (apart _)
  · exact absurd same second
  · exact same

theorem namedBy_iff {name : String} {type : LogicalType} :
    NamedBy name type ↔ ofName name = type := by
  constructor
  · intro named
    cases named with
    | own => exact ofName_name type
    | bigDecimal => rfl
    | other apart second => exact ofName_other apart second
  · rintro rfl
    -- A name is the second name, that of no type, or that of one.
    by_cases second : name = "bigdecimal"
    · subst second
      exact .bigDecimal
    · by_cases apart : ∀ type : LogicalType, type.name ≠ name
      · rw [ofName_other apart second]
        exact .other apart second
      · obtain ⟨type, same⟩ := not_forall.mp apart
        rw [← not_not.mp same, ofName_name]
        exact .own type

end LogicalType

/-! ### What is stored -/

/-- A column, and likewise capabilities, are read back from their JSON text as they were, the ports
in their order. Whatever JSON string is read as the type of a column, it is a type: the one that the
string names. -/
theorem stored_read :
    (∀ column : Column,
      (Json.parse? (Json.compact column.toDatum)).bind Column.ofDatum? = some column) ∧
    (∀ capabilities : Capabilities,
      (Json.parse? (Json.compact capabilities.toDatum)).bind Capabilities.ofDatum? =
        some capabilities) ∧
    (∀ name : String, Json.parse? (Json.compact (.text name)) = some (.text name)) ∧
    ∀ text name : String, Json.parse? text = some (.text name) →
      ∃ type, (Json.parse? text).bind LogicalType.ofDatum? = some type ∧
        ∀ other, LogicalType.NamedBy name other ↔ other = type := by
  refine ⟨fun column => ?_, fun capabilities => ?_, fun name => ?_, fun text name holds => ?_⟩
  · rw [column.readsAs_toDatum.parse?_compact, Option.bind_some, column.ofDatum?_toDatum]
  · rw [capabilities.readsAs_toDatum.parse?_compact, Option.bind_some,
      capabilities.ofDatum?_toDatum]
  · exact (Json.readsAs_text name).parse?_compact
  · refine ⟨LogicalType.ofName name, ?_, fun other => ?_⟩
    · rw [holds]
      rfl
    · rw [LogicalType.namedBy_iff, eq_comm]

theorem stored_read_escaped :
    Json.parse? "\"bigdecima\\u006c\"" = some (.text "bigdecimal") ∧
      (Json.parse? "\"bigdecima\\u006c\"").bind LogicalType.ofDatum? = some .bigNumber := by
  have chars : "\"bigdecima\\u006c\"".toList =
      ['"', 'b', 'i', 'g', 'd', 'e', 'c', 'i', 'm', 'a', '\\', 'u', '0', '0', '6', 'c', '"'] := by
    rfl
  have string : Json.string? ['b', 'i', 'g', 'd', 'e', 'c', 'i', 'm', 'a', '\\', 'u', '0', '0',
      '6', 'c', '"'] = some (some "bigdecimal", []) := by
    rfl
  have start (rest : List Char) : Json.skipBlanks ('"' :: rest) = '"' :: rest := by
    rfl
  have holds : Json.parse? "\"bigdecima\\u006c\"" = some (.text "bigdecimal") := by
    simp only [Json.parse?, chars, start, Json.value?, string]
    rfl
  obtain ⟨type, read, only⟩ := stored_read.2.2.2 _ _ holds
  cases (only .bigNumber).mp .bigDecimal
  exact ⟨holds, read⟩

end VendorSql
