import VendorSql.Introspection
import Mathlib.Data.List.Basic

/-!
# When an index covers the fields

The rows of the answer are read one by one, and of each field it is remembered whether a row has
named it. What is remembered always says which of the fields the rows so far have named, so at the
end of the answer it says whether all of them name every field. That depends on which rows and which
fields there are, and neither on their order nor on repetitions. A failure, however late, takes the
place of the verdict.
-/
namespace VendorSql

/-- A row names a field as an indexed column: the text it carries as such is the field, apart from
case and from blanks around it. -/
def Row.Names (row : Row) (field : String) : Prop :=
  ∃ column, row.Carries indexColumnAlias (.text column) ∧
    Text.equalIgnoringCase field (Text.trim column) = true

/-- There are rows, and every field is named by one of them. -/
def Covers (rows : List Row) (fields : List String) : Prop :=
  rows ≠ [] ∧ ∀ field ∈ fields, ∃ row ∈ rows, row.Names field

namespace Cursor

def rows : Cursor → List Row
  | row first rest => first :: rest.rows
  | finished | failed _ => []

def failure? : Cursor → Option GatewayError
  | row _ rest => rest.failure?
  | finished => none
  | failed error => some error

end Cursor

/-- How checking an index ends, given the query, if there is one, and how it would be answered. -/
structure IndexVerdict (dialect : Dialect) (table : String) (fields : List String)
    (query : Option String) (answer : String → Except GatewayError Cursor)
    (result : Except Error Bool) : Prop where
  /-- Without a query the feature is missing. -/
  unsupported : query = none → result = .error (.unsupported dialect.name .indexIntrospection)
  /-- A query that fails is an access that failed. -/
  unanswered : ∀ sql error, query = some sql → answer sql = .error error →
    result = .error (.databaseAccess .checkIndex table error)
  /-- So is an answer that breaks off, whatever its rows were. -/
  broken : ∀ sql cursor error, query = some sql → answer sql = .ok cursor →
    cursor.failure? = some error → result = .error (.databaseAccess .checkIndex table error)
  /-- A whole answer decides by its rows. -/
  decided : ∀ sql cursor, query = some sql → answer sql = .ok cursor → cursor.failure? = none →
    ∃ covered, result = .ok covered ∧ (covered = true ↔ Covers cursor.rows fields)

/-! ### Rows and fields as sets -/

/-- Neither order nor repetition counts, in the rows or in the fields. -/
theorem Covers.congr {rows rows' : List Row} {fields fields' : List String}
    (sameRows : ∀ row, row ∈ rows ↔ row ∈ rows')
    (sameFields : ∀ field, field ∈ fields ↔ field ∈ fields') :
    Covers rows fields ↔ Covers rows' fields' := by
  have present : rows ≠ [] ↔ rows' ≠ [] := by
    simp only [ne_eq, List.eq_nil_iff_forall_not_mem, sameRows]
  simp only [Covers, present, sameRows, sameFields]

/-- Whole answers with the same rows give the same result for the same fields. -/
theorem IndexVerdict.result_eq {dialect : Dialect} {table sql : String}
    {fields fields' : List String} {answer answer' : String → Except GatewayError Cursor}
    {result result' : Except Error Bool} {cursor cursor' : Cursor}
    (verdict : IndexVerdict dialect table fields (some sql) answer result)
    (verdict' : IndexVerdict dialect table fields' (some sql) answer' result')
    (answered : answer sql = .ok cursor) (ends : cursor.failure? = none)
    (answered' : answer' sql = .ok cursor') (ends' : cursor'.failure? = none)
    (sameRows : ∀ row, row ∈ cursor.rows ↔ row ∈ cursor'.rows)
    (sameFields : ∀ field, field ∈ fields ↔ field ∈ fields') : result' = result := by
  obtain ⟨covered, result, judged⟩ := verdict.decided sql cursor rfl answered ends
  obtain ⟨covered', result', judged'⟩ := verdict'.decided sql cursor' rfl answered' ends'
  have same : covered' = covered := by
    rw [Bool.eq_iff_iff, judged', judged]
    exact (Covers.congr sameRows sameFields).symm
  rw [result', result, same]

/-! ### What is remembered -/

namespace Coverage

/-- What is remembered says which of the fields the rows have named. -/
structure Summarizes (fields : List String) (rows : List Row) (seen : Coverage) : Prop where
  asked : seen.fields.map Prod.fst = fields
  sawRows : seen.sawRows = true ↔ rows ≠ []
  named : ∀ entry ∈ seen.fields, entry.2 = true ↔ ∃ row ∈ rows, row.Names entry.1

variable {fields : List String} {rows : List Row} {seen : Coverage}

theorem summarizes_start (fields : List String) : Summarizes fields [] (start fields) := by
  refine ⟨?_, ?_, ?_⟩
  · simp [start, Function.comp_def]
  · simp [start]
  · intro entry member
    obtain ⟨field, _, rfl⟩ := List.mem_map.mp member
    simp

/-- A row adds its own name to those of the rows before, and a row without one adds nothing. -/
theorem Summarizes.note (summary : Summarizes fields rows seen) (row : Row) :
    Summarizes fields (rows ++ [row]) (seen.note row) := by
  -- A new row names a field in addition to what the earlier ones have named.
  have step (entry : String × Bool) : (∃ given ∈ rows ++ [row], given.Names entry.1) ↔
      (∃ given ∈ rows, given.Names entry.1) ∨ row.Names entry.1 := by
    simp [or_and_right, exists_or]
  cases text : row.text? indexColumnAlias with
  | none =>
    have nameless (field : String) : ¬row.Names field := by
      rintro ⟨column, carried, _⟩
      rw [← Row.text?_eq_some_iff, text] at carried
      cases carried
    refine ⟨?_, ?_, ?_⟩
    · simpa [Coverage.note, text] using summary.asked
    · simp [Coverage.note]
    · intro entry member
      simp only [Coverage.note, text] at member
      rw [step, summary.named entry member]
      exact (or_iff_left (nameless entry.1)).symm
  | some column =>
    have names (field : String) : row.Names field ↔
        Text.equalIgnoringCase field (Text.trim column) = true := by
      simp only [Row.Names, ← Row.text?_eq_some_iff, text, Option.some.injEq, exists_eq_left']
    refine ⟨?_, ?_, ?_⟩
    · rw [← summary.asked]
      simp [Coverage.note, text, Function.comp_def]
    · simp [Coverage.note]
    · intro entry member
      simp only [Coverage.note, text] at member
      obtain ⟨⟨field, hit⟩, before, rfl⟩ := List.mem_map.mp member
      rw [step, ← summary.named _ before, names, Bool.or_eq_true]

theorem Summarizes.complete_iff (summary : Summarizes fields rows seen) :
    seen.complete = true ↔ Covers rows fields := by
  rw [complete, Bool.and_eq_true, summary.sawRows, List.all_eq_true, Covers, ← summary.asked,
    List.forall_mem_map]
  refine and_congr_right fun _ => forall₂_congr fun entry member => ?_
  exact summary.named entry member

end Coverage

/-! ### Reading an answer -/

section Reading

variable {σ : Type} (gateway : Gateway σ) (table : String) (state : σ) {fields : List String}
  {rows : List Row} {seen : Coverage}

/-- A failure counts wherever it comes, also behind rows that cover all fields. -/
theorem result_readIndexColumns_of_failure (seen : Coverage) {cursor : Cursor}
    {error : GatewayError} (fails : cursor.failure? = some error) (opened : Cursor) :
    ((Dialect.readIndexColumns table seen cursor).run gateway state opened).result =
      .error (.databaseAccess .checkIndex table error) := by
  induction cursor generalizing seen opened with
  | row row rest ih => exact ih (seen.note row) fails _
  | finished => cases fails
  | failed cause =>
    cases fails
    rfl

/-- Read to its end, an answer is judged by the rows before it and its own. -/
theorem result_readIndexColumns (summary : seen.Summarizes fields rows) {cursor : Cursor}
    (ends : cursor.failure? = none) (opened : Cursor) :
    ∃ covered, ((Dialect.readIndexColumns table seen cursor).run gateway state opened).result =
        .ok covered ∧ (covered = true ↔ Covers (rows ++ cursor.rows) fields) := by
  -- Each row moves from the cursor to the rows that the memory sums up.
  induction cursor generalizing rows seen opened with
  | row row rest ih =>
    obtain ⟨covered, result, judged⟩ := ih (summary.note row) ends opened.next.2
    refine ⟨covered, result, ?_⟩
    rw [judged, List.append_assoc]
    rfl
  | finished =>
    refine ⟨seen.complete, rfl, ?_⟩
    rw [summary.complete_iff, Cursor.rows, List.append_nil]
  | failed cause => cases ends

end Reading

section Checking

variable {σ : Type} (dialect : Dialect) (gateway : Gateway σ) (schema : Option String)
  (table : String) (fields : List String) (state : σ)

theorem run_indexExists_of_unsupported (missing : dialect.indexColumnsQuery? schema table = none) :
    (dialect.indexExists schema table fields).run gateway state =
      { result := .error (.unsupported dialect.name .indexIntrospection), state } := by
  simp only [Dialect.indexExists, missing]
  rfl

theorem verdict_indexExists :
    IndexVerdict dialect (dialect.qualifiedName schema table) fields
      (dialect.indexColumnsQuery? schema table) (fun sql => (gateway.execute sql state).1)
      ((dialect.indexExists schema table fields).run gateway state).result := by
  have answered {sql : String} {cursor : Cursor}
      (query : dialect.indexColumnsQuery? schema table = some sql)
      (answer : (gateway.execute sql state).1 = .ok cursor) :
      ((dialect.indexExists schema table fields).run gateway state).result =
        ((Dialect.readIndexColumns (dialect.qualifiedName schema table) (.start fields)
          cursor).run gateway (gateway.execute sql state).2 cursor).result := by
    simp only [Dialect.indexExists, query, Dialogue.run, answer]
  refine ⟨?_, ?_, ?_, ?_⟩
  · intro missing
    -- One part of the verdict after another: no query, a failed one, a late failure, the end.
    rw [run_indexExists_of_unsupported dialect gateway schema table fields state missing]
  · intro sql error query failed
    simp only [Dialect.indexExists, query, Dialogue.run, failed]
  · intro sql cursor error query answer fails
    rw [answered query answer]
    exact result_readIndexColumns_of_failure gateway _ _ _ fails cursor
  · intro sql cursor query answer ends
    rw [answered query answer]
    exact result_readIndexColumns gateway _ _ (Coverage.summarizes_start fields) ends cursor

/-- Checking an index ends by what the connection answers, and touches none without a query. Whole
answers with the same rows, in any order and number, give the same result for the same fields. -/
theorem indexExists_decides :
    let name := dialect.qualifiedName schema table
    let query := dialect.indexColumnsQuery? schema table
    let checked := (dialect.indexExists schema table fields).run gateway state
    IndexVerdict dialect name fields query (fun sql => (gateway.execute sql state).1)
        checked.result ∧
      Action.checkIndex.text = "check index" ∧
      (query = none → checked.calls = [] ∧ checked.state = state) ∧
      ∀ (σ' : Type) (gateway' : Gateway σ') (state' : σ') fields' sql cursor cursor',
        query = some sql →
        (gateway.execute sql state).1 = .ok cursor → cursor.failure? = none →
        (gateway'.execute sql state').1 = .ok cursor' → cursor'.failure? = none →
        (∀ row, row ∈ cursor.rows ↔ row ∈ cursor'.rows) →
        (∀ field, field ∈ fields ↔ field ∈ fields') →
        ((dialect.indexExists schema table fields').run gateway' state').result =
          checked.result := by
  intro name query checked
  have verdict : IndexVerdict dialect name fields query (fun sql => (gateway.execute sql state).1)
      checked.result := verdict_indexExists dialect gateway schema table fields state
  refine ⟨verdict, rfl, ?_, ?_⟩
  · intro missing
    have untouched :=
      run_indexExists_of_unsupported dialect gateway schema table fields state missing
    exact ⟨congrArg Transcript.calls untouched, congrArg Transcript.state untouched⟩
  · intro σ' gateway' state' fields' sql cursor cursor' asked answered ends answered' ends' sameRows
      sameFields
    -- The other answer is judged by the same verdict, which looks at members only.
    have verdict' : IndexVerdict dialect name fields' query
        (fun sql => (gateway'.execute sql state').1)
        ((dialect.indexExists schema table fields').run gateway' state').result :=
      verdict_indexExists dialect gateway' schema table fields' state'
    rw [asked] at verdict verdict'
    exact verdict.result_eq verdict' answered ends answered' ends' sameRows sameFields

end Checking

end VendorSql
