import VendorSql.Gateway
import VendorSql.Proofs.IndexCoverage
import VendorSql.Vendor.Builtin

/-!
# Tables with several indexes

The index query is answered with one row for each pair of an index and a column of it, and a row
says which column that is but not which index. So what is decided is whether every field is in some
index. That one index has all of them is more, and follows for every choice of fields only if the
table has one index that makes the others superfluous.
-/
namespace VendorSql

/-- An index of a table as the catalog of the database has it. -/
structure TableIndex where
  name : String
  columns : List String
  deriving Repr, DecidableEq

namespace TableIndex

/-- A field is among the columns of an index, apart from case and from blanks around the column. -/
def Has (index : TableIndex) (field : String) : Prop :=
  ∃ column ∈ index.columns, Text.equalIgnoringCase field (Text.trim column) = true

/-- All the fields are among the columns of one index. -/
def HasAll (index : TableIndex) (fields : List String) : Prop :=
  ∀ field ∈ fields, index.Has field

instance (index : TableIndex) (field : String) : Decidable (index.Has field) :=
  inferInstanceAs (Decidable (∃ column ∈ index.columns, _ = true))

instance (index : TableIndex) (fields : List String) : Decidable (index.HasAll fields) :=
  inferInstanceAs (Decidable (∀ field ∈ fields, index.Has field))

/-- Names that are the same apart from case are in the same indexes. -/
theorem Has.congr {index : TableIndex} {field field' : String} (has : index.Has field')
    (same : Text.equalIgnoringCase field field' = true) : index.Has field := by
  obtain ⟨column, member, named⟩ := has
  exact ⟨column, member, by rwa [← Text.equalIgnoringCase_congr named field]⟩

theorem has_trim {index : TableIndex} {column : String} (member : column ∈ index.columns) :
    index.Has (Text.trim column) :=
  ⟨column, member, Text.equalIgnoringCase_refl _⟩

end TableIndex

def indexedColumns (indexes : List TableIndex) : List (String × String) :=
  indexes.flatMap fun index => index.columns.map (index.name, ·)

/-- There is one row for each pair of an index and a column of it, in whatever order, and as the
indexed column it carries the column of the pair. -/
def Lists (rows : List Row) (indexes : List TableIndex) : Prop :=
  (rows.map (·.text? indexColumnAlias)).Perm
    ((indexedColumns indexes).map fun (_, column) => some column)

/-- One index has the columns of all the others, if there is any column at all. -/
def Concentrated (indexes : List TableIndex) : Prop :=
  (∃ index ∈ indexes, index.columns ≠ []) →
    ∃ index ∈ indexes, ∀ other ∈ indexes, ∀ column ∈ other.columns, index.Has (Text.trim column)

/-! ### What the rows say of the indexes -/

namespace Lists

variable {rows : List Row} {indexes : List TableIndex}

theorem exists_row_iff (listed : Lists rows indexes) (column : String) :
    (∃ row ∈ rows, row.text? indexColumnAlias = some column) ↔
      ∃ index ∈ indexes, column ∈ index.columns := by
  -- A row and a pair that are matched have the same column; which index it is of is lost.
  have same := listed.mem_iff (a := some column)
  rw [List.mem_map] at same
  rw [same]
  simp [indexedColumns, List.mem_flatMap]

/-- A row names a field exactly if some index has it. -/
theorem names_iff (listed : Lists rows indexes) (field : String) :
    (∃ row ∈ rows, row.Names field) ↔ ∃ index ∈ indexes, index.Has field := by
  simp only [Row.Names, ← Row.text?_eq_some_iff]
  constructor
  · rintro ⟨row, member, column, carried, named⟩
    obtain ⟨index, present, inside⟩ := (listed.exists_row_iff column).mp ⟨row, member, carried⟩
    exact ⟨index, present, column, inside, named⟩
  · rintro ⟨index, present, column, inside, named⟩
    obtain ⟨row, member, carried⟩ := (listed.exists_row_iff column).mpr ⟨index, present, inside⟩
    exact ⟨row, member, column, carried, named⟩

theorem ne_nil_iff (listed : Lists rows indexes) :
    rows ≠ [] ↔ ∃ index ∈ indexes, index.columns ≠ [] := by
  have lengths := listed.length_eq
  rw [List.length_map, List.length_map] at lengths
  rw [← List.length_pos_iff, lengths, List.length_pos_iff]
  simp [indexedColumns]

/-- The rows cover the fields if there is a column at all, and each field is in some index. -/
theorem covers_iff (listed : Lists rows indexes) (fields : List String) :
    Covers rows fields ↔
      (∃ index ∈ indexes, index.columns ≠ []) ∧
        ∀ field ∈ fields, ∃ index ∈ indexes, index.Has field := by
  simp only [Covers, listed.ne_nil_iff, listed.names_iff]

end Lists

/-! ### One index against all of them -/

/-- If one index has the columns of all others, it has all fields that the indexes have together. -/
theorem Concentrated.exists_hasAll {indexes : List TableIndex} (concentrated : Concentrated indexes)
    (present : ∃ index ∈ indexes, index.columns ≠ []) {fields : List String}
    (spread : ∀ field ∈ fields, ∃ index ∈ indexes, index.Has field) :
    ∃ index ∈ indexes, index.HasAll fields := by
  obtain ⟨index, member, dominates⟩ := concentrated present
  refine ⟨index, member, ?_⟩
  intro field asked
  -- Wherever the field is, its column is in the one index too, under a name that is the same.
  obtain ⟨other, among, column, inside, named⟩ := spread field asked
  exact (dominates other among column inside).congr named

/-- If one index has whatever fields are spread over all of them, then it has all the columns. -/
theorem concentrated_of_exists_hasAll {indexes : List TableIndex}
    (single : ∀ fields, fields ≠ [] → (∀ field ∈ fields, ∃ index ∈ indexes, index.Has field) →
      ∃ index ∈ indexes, index.HasAll fields) : Concentrated indexes := by
  rintro ⟨first, member, present⟩
  -- Asked for together, the columns of all the indexes have to be in one of them.
  let columns := indexes.flatMap fun index => index.columns.map Text.trim
  have inside {index : TableIndex} (among : index ∈ indexes) {column : String}
      (here : column ∈ index.columns) : Text.trim column ∈ columns :=
    List.mem_flatMap.mpr ⟨index, among, List.mem_map_of_mem here⟩
  have some : columns ≠ [] := by
    obtain ⟨column, here⟩ := List.exists_mem_of_ne_nil _ present
    exact List.ne_nil_of_mem (inside member here)
  have spread : ∀ field ∈ columns, ∃ index ∈ indexes, index.Has field := by
    intro field asked
    obtain ⟨index, among, listed⟩ := List.mem_flatMap.mp asked
    obtain ⟨column, here, rfl⟩ := List.mem_map.mp listed
    exact ⟨index, among, TableIndex.has_trim here⟩
  obtain ⟨index, among, all⟩ := single columns some spread
  exact ⟨index, among, fun other listed column here => all _ (inside listed here)⟩

/-! ### Checking -/

section Checking

variable {σ : Type} (dialect : Dialect) (gateway : Gateway σ) (state : σ) (schema : Option String)
  (table : String) {indexes : List TableIndex} {sql : String} {cursor : Cursor}

theorem indexExists_decided_by_indexes (asked : dialect.indexColumnsQuery? schema table = some sql)
    (answered : (gateway.execute sql state).1 = .ok cursor) (ends : cursor.failure? = none)
    (listed : Lists cursor.rows indexes) (fields : List String) :
    ∃ covered,
      ((dialect.indexExists schema table fields).run gateway state).result = .ok covered ∧
      (covered = true ↔ (∃ index ∈ indexes, index.columns ≠ []) ∧
        ∀ field ∈ fields, ∃ index ∈ indexes, index.Has field) := by
  obtain ⟨covered, result, judged⟩ :=
    (verdict_indexExists dialect gateway schema table fields state).decided sql cursor asked
      answered ends
  exact ⟨covered, result, judged.trans (listed.covers_iff fields)⟩

/-- If there are fields and each is in some index, then there are columns. -/
theorem indexExists_eq_true_iff (asked : dialect.indexColumnsQuery? schema table = some sql)
    (answered : (gateway.execute sql state).1 = .ok cursor) (ends : cursor.failure? = none)
    (listed : Lists cursor.rows indexes) {fields : List String} (some : fields ≠ []) :
    ((dialect.indexExists schema table fields).run gateway state).result = .ok true ↔
      ∀ field ∈ fields, ∃ index ∈ indexes, index.Has field := by
  obtain ⟨covered, result, judged⟩ :=
    indexExists_decided_by_indexes dialect gateway state schema table asked answered ends listed
      fields
  rw [result, Except.ok.injEq, judged, and_iff_right_iff_imp]
  intro spread
  obtain ⟨field, given⟩ := List.exists_mem_of_ne_nil _ some
  obtain ⟨index, member, column, inside, _⟩ := spread field given
  exact ⟨index, member, List.ne_nil_of_mem inside⟩

end Checking

/-- Of a table whose indexes the connection lists, it is decided whether each of the fields is in
some index. A single index that has them all is never missed; and that there is such an index can be
concluded, for all choices of fields, exactly if one index has the columns of all the others. -/
theorem indexExists_spread {σ : Type} (dialect : Dialect) (gateway : Gateway σ) (state : σ)
    (schema : Option String) (table : String) (indexes : List TableIndex) (sql : String)
    (cursor : Cursor) (asked : dialect.indexColumnsQuery? schema table = some sql)
    (answered : (gateway.execute sql state).1 = .ok cursor) (ends : cursor.failure? = none)
    (listed : Lists cursor.rows indexes) :
    let found (fields : List String) :=
      ((dialect.indexExists schema table fields).run gateway state).result
    (∀ fields, ∃ covered, found fields = .ok covered ∧
      (covered = true ↔ (∃ index ∈ indexes, index.columns ≠ []) ∧
        ∀ field ∈ fields, ∃ index ∈ indexes, index.Has field)) ∧
    (∀ fields, fields ≠ [] → (∃ index ∈ indexes, index.HasAll fields) → found fields = .ok true) ∧
    ((∀ fields, fields ≠ [] → found fields = .ok true → ∃ index ∈ indexes, index.HasAll fields) ↔
      Concentrated indexes) := by
  intro found
  -- For a field at least, rows that name it all are all it takes.
  have found_iff {fields : List String} (some : fields ≠ []) : found fields = .ok true ↔
      ∀ field ∈ fields, ∃ index ∈ indexes, index.Has field :=
    indexExists_eq_true_iff dialect gateway state schema table asked answered ends listed some
  refine ⟨indexExists_decided_by_indexes dialect gateway state schema table asked answered ends
    listed, ?_, ?_, ?_⟩
  · rintro fields some ⟨index, member, all⟩
    exact (found_iff some).mpr fun field given => ⟨index, member, all field given⟩
  · intro single
    exact concentrated_of_exists_hasAll fun fields some spread =>
      single fields some ((found_iff some).mpr spread)
  · intro concentrated fields some covered
    have spread := (found_iff some).mp covered
    -- A field that some index has shows that there is a column at all.
    obtain ⟨field, given⟩ := List.exists_mem_of_ne_nil _ some
    obtain ⟨index, member, column, inside, _⟩ := spread field given
    exact concentrated.exists_hasAll ⟨index, member, List.ne_nil_of_mem inside⟩ spread

/-- An index on two columns makes another one superfluous, which is on one of them. -/
theorem indexExists_spread_concentrated :
    let profile := (Vendor.mySql.configure .empty).result
    let indexes : List TableIndex :=
      [⟨"by_date", ["order_date"]⟩, ⟨"by_customer", ["customer_id", "ORDER_DATE "]⟩]
    let cursor := Cursor.ofRows (["customer_id", "order_date", "ORDER_DATE "].map fun column =>
      .ofList [(indexColumnAlias, .text column)])
    let gateway := Gateway.prepared
    let state : Prepared := { queries := [.ok cursor] }
    ∃ sql, profile.indexColumnsQuery? none "orders" = some sql ∧
      (gateway.execute sql state).1 = .ok cursor ∧ cursor.failure? = none ∧
      Lists cursor.rows indexes ∧ Concentrated indexes ∧
      ((profile.dialect.indexExists none "orders" ["Order_Date"]).run gateway state).result =
        .ok true ∧
      ∀ fields, fields ≠ [] →
        ((profile.dialect.indexExists none "orders" fields).run gateway state).result = .ok true →
        ∃ index ∈ indexes, index.HasAll fields := by
  intro profile indexes cursor gateway state
  have listed : Lists cursor.rows indexes := by
    unfold Lists
    decide +kernel
  have concentrated : Concentrated indexes := fun _ =>
    ⟨⟨"by_customer", ["customer_id", "ORDER_DATE "]⟩, by decide +kernel, by decide +kernel⟩
  obtain ⟨_, complete, concluded⟩ := indexExists_spread profile.dialect gateway state none
    "orders" indexes _ cursor rfl rfl rfl listed
  exact ⟨_, rfl, rfl, rfl, listed, concentrated, complete _ (by decide) (by decide +kernel),
    concluded.mpr concentrated⟩

/-- Two indexes on one column each. -/
theorem indexExists_two_indexes :
    let profile := (Vendor.postgreSql.configure .empty).result
    let indexes : List TableIndex :=
      [⟨"by_date", ["order_date"]⟩, ⟨"by_customer", ["customer_id"]⟩]
    let cursor := Cursor.ofRows (["order_date", "customer_id"].map fun column =>
      .ofList [(indexColumnAlias, .text column)])
    let fields := ["order_date", "customer_id"]
    Lists cursor.rows indexes ∧
      ((profile.dialect.indexExists (some "public") "orders" fields).run .prepared
        { queries := [.ok cursor] }).result = .ok true ∧
      ¬∃ index ∈ indexes, index.HasAll fields := by
  intro profile indexes cursor fields
  refine ⟨?_, by decide +kernel, by decide +kernel⟩
  unfold Lists
  decide +kernel

end VendorSql
