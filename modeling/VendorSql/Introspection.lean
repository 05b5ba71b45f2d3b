import VendorSql.Gateway
import VendorSql.Statement

/-!
# Looking into a live database

Two operations need a connection. One asks whether the indexes of a table cover given fields. The
other one takes the next batch number of a table: the greatest number so far plus one, read while
the table is locked. Once the lock is granted it is released exactly once, however the reading
ends; a failure to release it is an error only if the reading failed as well.

Of the profile of a database they need only how to write names and what to ask, and nothing is
assumed about either, so they work for any database that can be spoken to.
-/
namespace VendorSql

/-- How a database is spoken to by the operations that look into it. -/
structure Dialect where
  /-- The name of the product. -/
  name : String
  quoteName : String → String
  qualifiedName : (schema : Option String) → (table : String) → String
  indexColumnsQuery? : (schema : Option String) → (table : String) → Option String
  maximumQuery : (table field : String) → String

def Profile.dialect (profile : Profile) : Dialect where
  name := profile.name
  quoteName := profile.quoteName
  qualifiedName := profile.qualifiedName
  indexColumnsQuery? := profile.indexColumnsQuery?
  maximumQuery := profile.maximumQuery

/-- What the rows of an answer have shown so far: whether there was one, and of each field asked for
whether a row has named it as an indexed column. -/
structure Coverage where
  sawRows : Bool := false
  fields : List (String × Bool)
  deriving Repr, DecidableEq

namespace Coverage

def start (fields : List String) : Coverage where
  fields := fields.map fun field => (field, false)

/-- The same with one more row. A row without a text for the column names no field, but it is there.
-/
def note (coverage : Coverage) (row : Row) : Coverage where
  sawRows := true
  fields := match row.text? indexColumnAlias with
    | none => coverage.fields
    | some column => coverage.fields.map fun (field, hit) =>
      (field, hit || Text.equalIgnoringCase field (Text.trim column))

/-- Whether there was a row and every field has been named. -/
def complete (coverage : Coverage) : Bool :=
  coverage.sawRows && coverage.fields.all Prod.snd

end Coverage

/-- The integer after a batch number, if there is one. -/
def successor? (maximum : Int64) : Option Int64 :=
  Number.int64? (maximum.toInt + 1)

/-- The batch number after the one a row holds; a row without a number counts as zero. -/
def nextBatchId (table : String) (row : Option Row) : Except Error Int64 := do
  let maximum ← match row with
    | none => .ok 0
    | some row => match row.get? maximumAlias with
      | none | some .null => .ok 0
      | some value => match value.integer? with
        | some maximum => .ok maximum
        | none => .error (.unexpectedRow table .notInteger)
  match successor? maximum with
  | some next => .ok next
  | none => .error (.unexpectedRow table .overflow)

theorem successor?_eq_some_iff {maximum next : Int64} :
    successor? maximum = some next ↔ next.toInt = maximum.toInt + 1 :=
  Number.int64?_eq_some_iff

theorem toInt_of_successor? {maximum next : Int64} (valid : successor? maximum = some next) :
    next.toInt = maximum.toInt + 1 :=
  Number.toInt_of_int64? valid

/-- A row that shows a number has the next one, unless that is out of range. -/
theorem nextBatchId_of_integer? (table : String) {row : Row} {maximum : Int64}
    (shown : row.integer? maximumAlias = some maximum) :
    nextBatchId table (some row) = match successor? maximum with
      | some next => .ok next
      | none => .error (.unexpectedRow table .overflow) := by
  obtain ⟨value, present, stands⟩ := Option.bind_eq_some_iff.mp shown
  cases value with
  | null => cases stands
  | _ =>
    simp only [nextBatchId, present, stands]
    rfl

/-- An empty table shows null, and its first number is one. -/
theorem nextBatchId_of_null (table : String) {row : Row}
    (null : row.get? maximumAlias = some .null) : nextBatchId table (some row) = .ok 1 := by
  simp only [nextBatchId, null]
  rfl

/-- A value that is there has to be an integer. -/
theorem nextBatchId_of_notInteger (table : String) {row : Row} {value : Value}
    (present : row.get? maximumAlias = some value) (given : value ≠ .null)
    (stands : value.integer? = none) :
    nextBatchId table (some row) = .error (.unexpectedRow table .notInteger) := by
  cases value with
  | null => exact absurd rfl given
  | _ =>
    simp only [nextBatchId, present, stands]
    rfl

/-- So it is if the row has no such field at all. -/
theorem nextBatchId_of_absent (table : String) {row : Row}
    (absent : row.get? maximumAlias = none) : nextBatchId table (some row) = .ok 1 := by
  simp only [nextBatchId, absent]
  rfl

/-- An answer without a next number is an error about its table. -/
theorem nextBatchId_eq_error {table : String} {row : Option Row} {error : Error}
    (failed : nextBatchId table row = .error error) :
    ∃ fault, error = .unexpectedRow table fault := by
  -- Whatever number there is, the one after it may be missing; the other faults are told apart
  -- below.
  have overflow (maximum : Int64) (failed : (match successor? maximum with
      | some next => .ok next
      | none => .error (.unexpectedRow table .overflow)) = Except.error error) :
      ∃ fault, error = .unexpectedRow table fault := by
    split at failed
    · cases failed
    · cases failed
      exact ⟨.overflow, rfl⟩
  simp only [nextBatchId, bind, Except.bind] at failed
  split at failed
  case h_1 => exact overflow 0 failed
  case h_2 row _ =>
    split at failed
    case h_1 => exact overflow 0 failed
    case h_2 => exact overflow 0 failed
    case h_3 value _ _ =>
      cases stands : value.integer? with
      | some maximum =>
        rw [stands] at failed
        exact overflow maximum failed
      | none =>
        rw [stands] at failed
        cases failed
        exact ⟨.notInteger, rfl⟩

namespace Dialect

/-- Reads the rest of an answer and tells whether its rows, with those seen before, cover the
fields. -/
def readIndexColumns (table : String) (seen : Coverage) :
    Cursor → Dialogue (Except Error Bool)
  | .row row rest => .fetch (readIndexColumns table (seen.note row) rest)
  | .finished => .fetch (.done (.ok seen.complete))
  | .failed error => .fetch (.done (.error (.databaseAccess .checkIndex table error)))

/-- Whether the indexes of a table cover every one of the fields. Case and order do not matter; no
rows mean that there is no index or no such table. -/
def indexExists (dialect : Dialect) (schema : Option String) (table : String)
    (fields : List String) : Dialogue (Except Error Bool) :=
  let name := dialect.qualifiedName schema table
  match dialect.indexColumnsQuery? schema table with
  | none => .done (.error (.unsupported dialect.name .indexIntrospection))
  | some sql =>
    .report (.checkingIndex name sql) <| .execute sql fun
      | .error error => .done (.error (.databaseAccess .checkIndex name error))
      | .ok cursor => readIndexColumns name (.start fields) cursor

/-- Reads the next batch number of a table that is locked. -/
def readNextBatchId (dialect : Dialect) (table field : String) :
    Dialogue (Except Error Int64) :=
  let sql := dialect.maximumQuery table (dialect.quoteName field)
  .report (.readingMaximum table sql) <| .execute sql fun
    | .error error => .done (.error (.databaseAccess .readMaximum table error))
    | .ok (.row row _) => .fetch (.done (nextBatchId table (some row)))
    | .ok .finished => .fetch (.done (nextBatchId table none))
    | .ok (.failed error) => .fetch (.done (.error (.databaseAccess .readMaximum table error)))

/-- The outcome of reading and of releasing the lock, put together. -/
def concludeLocked (table : String) (result : Except Error Int64)
    (released : Except GatewayError Unit) : Dialogue (Except Error Int64) :=
  match result, released with
  | .ok id, .ok () => .done (.ok id)
  | .ok id, .error cleanup => .report (.unlockFailed table cleanup) (.done (.ok id))
  | .error error, .ok () => .done (.error error)
  | .error error, .error cleanup =>
    .done (.error (.cleanupFailed .readMaximum table error cleanup))

/-- Takes the next batch number of a table under a lock. -/
def takeBatchId (dialect : Dialect) (schema : Option String) (table field : String) :
    Dialogue (Except Error Int64) :=
  let name := dialect.qualifiedName schema table
  .lock [name] fun
    | .error error => .done (.error (.databaseAccess .lock name error))
    | .ok () => .report (.acquiredLock name) <|
      (dialect.readNextBatchId name field).bind fun result =>
        .unlock [name] (concludeLocked name result)

end Dialect

end VendorSql
