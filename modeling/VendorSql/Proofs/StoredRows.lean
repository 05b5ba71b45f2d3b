import VendorSql.Proofs.FloatReading
import VendorSql.Record

/-!
# Rows read back

A row is written without the kinds of its values, and the reader finds them again: what is written
with digits alone is an integer, a point or an exponent makes a floating-point number. Everything is
read back as it was but floating-point numbers. An infinity or a NaN has no notation and comes back
as null, and the decimal of a finite number is read without taking care of the last bits. How far
off such a number comes back is a matter of this reader, which rounds the digits and then scales
them: the notation would allow one that is always exact, and one that is worse.
-/
namespace VendorSql

/-- A finite number and the one that its decimal is read as. -/
structure Binary64.Reread (x y : Binary64) : Prop where
  reads : Json.float x.isNegative x.shortest.written.digits x.shortest.written.exponent = .float y
  finite : y.isFinite = true
  sign : y.isNegative = x.isNegative
  near : |y.magnitude - x.magnitude| ≤ x.magnitude / 2 ^ 50 + 2 * Binary64.smallestStep
  /-- Few digits and a small power of ten are read without an error. -/
  same : x.shortest.written.digits ≤ 2 ^ 53 → x.shortest.written.exponent.natAbs ≤ 22 → y = x

theorem Binary64.exists_reread {x : Binary64} (finite : x.isFinite = true) : ∃ y, x.Reread y := by
  obtain ⟨y, near⟩ := exists_readsNear finite
  refine ⟨y, near.reads, near.near.finite, near.sign, near.near_magnitude finite, ?_⟩
  intro few small
  have exact := float_written finite few small
  rw [near.reads] at exact
  exact Datum.float.inj exact

/-! ### Values -/

namespace Value

/-- What a value comes back as once it has been written. -/
inductive Reread : Value → Value → Prop
  | null : Reread null null
  | bool (value : Bool) : Reread (bool value) (bool value)
  | int (value : Int64) : Reread (int value) (int value)
  | text (value : String) : Reread (text value) (text value)
  | finite {x y : Binary64} : x.isFinite = true → x.Reread y → Reread (float x) (float y)
  | notFinite {x : Binary64} : x.isFinite = false → Reread (float x) null

/-- Every value can be read once it has been written, and comes back as `Reread` says. -/
theorem exists_reread (value : Value) :
    ∃ datum back, Json.ReadsAs value.toDatum datum ∧ ofDatum? datum = some back ∧
      Reread value back := by
  cases value with
  | null => exact ⟨_, _, Json.readsAs_null, rfl, .null⟩
  | bool value => exact ⟨_, _, Json.readsAs_bool value, rfl, .bool value⟩
  | int value =>
    have low := Int64.le_toInt value
    have high := Int64.toInt_lt value
    refine ⟨_, _, Json.readsAs_int ⟨low, by omega⟩, ?_, .int value⟩
    simp only [ofDatum?, Number.int64?_eq_some_iff.mpr rfl]
  | text value => exact ⟨_, _, Json.readsAs_text value, rfl, .text value⟩
  | float x =>
    cases finite : x.isFinite
    · exact ⟨_, _, Json.readsAs_notFinite finite, rfl, .notFinite finite⟩
    · -- Point or exponent keep it from being read as an integer.
      obtain ⟨y, reread⟩ := Binary64.exists_reread finite
      have written := Json.readsAs_finite finite
      rw [reread.reads] at written
      exact ⟨_, _, written, rfl, .finite finite reread⟩

/-- The same kind of value with the same content: the same bits, where one NaN is like another. -/
inductive Alike : Value → Value → Prop
  | same (value : Value) : Alike value value
  | notNumbers {x y : Binary64} : x.isFinite = false → x.fractionField ≠ 0 →
    y.isFinite = false → y.fractionField ≠ 0 → Alike (float x) (float y)

end Value

/-! ### Rows -/

namespace Row

/-- Entries and what they come back as: the same names in the same order, each with its value. -/
def EntriesReread (written back : List (String × Value)) : Prop :=
  List.Forall₂ (fun given read => given.1 = read.1 ∧ Value.Reread given.2 read.2) written back

theorem EntriesReread.names {written back : List (String × Value)}
    (reread : EntriesReread written back) : written.map Prod.fst = back.map Prod.fst := by
  rw [← List.forall₂_eq_eq_eq, List.forall₂_map_left_iff, List.forall₂_map_right_iff]
  exact reread.imp fun _ _ entry => entry.1

theorem exists_entriesReread (entries : List (String × Value)) :
    ∃ data back,
      Json.EntriesReadAs (entries.map fun (name, value) => (name, value.toDatum)) data ∧
      (data.mapM fun (name, datum) => (Value.ofDatum? datum).map (name, ·)) = some back ∧
      EntriesReread entries back := by
  induction entries with
  | nil => exact ⟨[], [], .nil, rfl, .nil⟩
  | cons entry entries ih =>
    -- Each value is read by itself; nothing depends on those before it.
    obtain ⟨name, value⟩ := entry
    obtain ⟨data, back, written, read, reread⟩ := ih
    obtain ⟨datum, first, reads, kind, comes⟩ := Value.exists_reread value
    refine ⟨(name, datum) :: data, (name, first) :: back, .cons ⟨rfl, reads⟩ written, ?_,
      .cons ⟨rfl, comes⟩ reread⟩
    simp [List.mapM_cons, kind, read]

theorem ofDatum?_table {data : List (String × Datum)} {entries : List (String × Value)}
    (read : (data.mapM fun (name, datum) => (Value.ofDatum? datum).map (name, ·)) = some entries) :
    ofDatum? (.table [("fields", .table data)]) = some (ofList entries) := by
  have record : (Datum.table [("fields", .table data)]).record? ["fields"] =
      some [some (.table data)] := rfl
  simp only [ofDatum?, record, Datum.required, Datum.table?, Option.bind_eq_bind, Option.bind_some,
    read]

theorem read_entries {row : Row} {data : List (String × Datum)} {entries : List (String × Value)}
    (written : Json.EntriesReadAs
      (row.fields.entries.map fun (name, value) => (name, value.toDatum)) data)
    (read : (data.mapM fun (name, datum) => (Value.ofDatum? datum).map (name, ·)) = some entries) :
    (Json.parse? (Json.compact row.toDatum)).bind ofDatum? = some (ofList entries) := by
  have fields := Json.readsAs_table written
  have table : Json.ReadsAs row.toDatum (.table [("fields", .table data)]) :=
    Json.readsAs_table (.cons ⟨rfl, fields⟩ .nil)
  rw [table.parse?_compact, Option.bind_some, ofDatum?_table read]

end Row

/-- A row is read back from its JSON text, with the same names in the same order, and under each
with the value that was written, unless that is a floating-point number: a finite one comes back
with its sign and, by the way the reader rounds, at most a little off, an infinity or a NaN as
null. -/
theorem row_reread (row : Row) :
    ∃ back, (Json.parse? (Json.compact row.toDatum)).bind Row.ofDatum? = some back ∧
      Row.EntriesReread row.fields.entries back.fields.entries := by
  obtain ⟨data, entries, written, read, reread⟩ := Row.exists_entriesReread row.fields.entries
  refine ⟨.ofList entries, Row.read_entries written read, ?_⟩
  -- No name occurs twice, so none of the entries replaces another.
  have distinct : (entries.map Prod.fst).Nodup := reread.names ▸ row.fields.distinct
  rwa [Row.fields_ofList, OrderedMap.entries_ofList distinct]

/-! ### Rows that change -/

/-- A row is preserved if it comes back with the same names in the same order and with values like
those it was written with. -/
def Row.Preserved (row : Row) : Prop :=
  ∃ back, (Json.parse? (Json.compact row.toDatum)).bind Row.ofDatum? = some back ∧
    List.Forall₂ (fun given read => given.1 = read.1 ∧ Value.Alike given.2 read.2)
      row.fields.entries back.fields.entries

/-- One value that does not come back alike is enough to change a row. -/
theorem Row.not_preserved_single {name : String} {value back : Value} {datum : Datum}
    (written : Json.ReadsAs value.toDatum datum) (read : Value.ofDatum? datum = some back)
    (differ : ¬value.Alike back) : ¬(ofList [(name, value)]).Preserved := by
  rintro ⟨other, reads, alike⟩
  have entry : Json.EntriesReadAs
      ((ofList [(name, value)]).fields.entries.map fun (name, value) => (name, value.toDatum))
      [(name, datum)] := .cons ⟨rfl, written⟩ .nil
  have single : (Json.parse? (Json.compact (ofList [(name, value)]).toDatum)).bind ofDatum? =
      some (ofList [(name, back)]) := read_entries entry (by simp [read])
  obtain rfl := Option.some.inj (single.symm.trans reads)
  obtain ⟨⟨-, same⟩, -⟩ := List.forall₂_cons.mp alike
  exact differ same

/-- The greatest odd number of fifty-three bits comes back even, and a NaN comes back as null. -/
theorem row_not_preserved :
    ¬(Row.ofList [("n", .float ⟨0x433fffffffffffff⟩)]).Preserved ∧
      ¬(Row.ofList [("n", .float ⟨0x7ff8000000000000⟩)]).Preserved := by
  constructor
  · -- The digits with the zero behind the point need more than fifty-three bits, and are rounded
    -- first.
    have written := Json.readsAs_finite
      (show (⟨0x433fffffffffffff⟩ : Binary64).isFinite = true by decide)
    have shortest : (⟨0x433fffffffffffff⟩ : Binary64).shortest.written =
        ⟨90071992547409910, .negSucc 0⟩ := by decide +kernel
    have sign : (⟨0x433fffffffffffff⟩ : Binary64).isNegative = false := by decide
    have rounded : Binary64.ofRatio false (Binary64.ofNat 90071992547409910).units
        (Binary64.ofNat (Number.tenTo (0 + 1))).units = ⟨0x433ffffffffffffe⟩ := by decide +kernel
    rw [shortest, sign, Binary64.float_divided false (by decide), rounded] at written
    refine Row.not_preserved_single written rfl fun alike => ?_
    cases alike with
    | notNumbers infinite => exact absurd infinite (by decide)
  · refine Row.not_preserved_single (Json.readsAs_notFinite (by decide)) rfl fun alike => ?_
    cases alike

end VendorSql
