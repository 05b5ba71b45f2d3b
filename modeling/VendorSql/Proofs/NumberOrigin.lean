import VendorSql.Gateway
import VendorSql.Proofs.BatchOutcome
import VendorSql.Vendor.Builtin

/-!
# Where a batch number comes from

A number is handed out for what was read under the lock. An answer without rows and a maximum that
is null both stand for an empty table, whose first number is one; after a maximum that is an integer
comes the next integer. A row with any other maximum is an error.

There is one more way to a number. A row that has no field for the maximum counts as an empty table
too, so it yields one, although nothing is known about the table then.
-/
namespace VendorSql

/-- The number that the first read of an answer accounts for. -/
inductive Accounts : Option Row → Int64 → Prop
  | noRow : Accounts none 1
  | null {row : Row} : row.Carries maximumAlias .null → Accounts (some row) 1
  | successor {row : Row} {value : Value} {maximum id : Int64} : row.Carries maximumAlias value →
    value.integer? = some maximum → id.toInt = maximum.toInt + 1 → Accounts (some row) id

/-- Whether an answer begins with a row that has no field for the maximum. -/
def LacksMaximum (answer : Except GatewayError Cursor) : Prop :=
  ∃ row rest, answer = .ok (.row row rest) ∧ ∀ value, ¬row.Carries maximumAlias value

/-- An error of reading under a lock, together with the failure of the release if there was one. -/
def Error.underLock (error : Error) (table : String) : Except GatewayError Unit → Error
  | .ok () => error
  | .error cleanup => .cleanupFailed .readMaximum table error cleanup

/-- Numbers come from what was read, given how locking, the query and the release ended. -/
structure Sourced (table : String) (locked : Except GatewayError Unit)
    (answer : Except GatewayError Cursor) (released : Except GatewayError Unit)
    (result : Except Error Int64) : Prop where
  /-- A number is returned exactly if the first read under the lock accounts for it. -/
  number : ∀ id, result = .ok id ↔ locked = .ok () ∧
    ∃ cursor row, answer = .ok cursor ∧ cursor.next.1 = .ok row ∧ Accounts row id
  /-- A first row that accounts for no number is reported as unexpected. -/
  unexpected : ∀ cursor row, locked = .ok () → answer = .ok cursor →
    cursor.next.1 = .ok (some row) → (∀ id, ¬Accounts (some row) id) →
    ∃ fault, result = .error ((Error.unexpectedRow table fault).underLock table released)

/-! ### From the row to the number -/

theorem accounts_of_carries {row : Row} {value : Value} {id : Int64}
    (carried : row.Carries maximumAlias value) :
    Accounts (some row) id ↔ value = .null ∧ id = 1 ∨
      ∃ maximum, value.integer? = some maximum ∧ id.toInt = maximum.toInt + 1 := by
  constructor
  · rintro (_ | null | ⟨also, stands, next⟩)
    · exact .inl ⟨carried.unique null, rfl⟩
    · rw [also.unique carried] at stands
      exact .inr ⟨_, stands, next⟩
  · rintro (⟨rfl, rfl⟩ | ⟨maximum, stands, next⟩)
    · exact .null carried
    · exact .successor carried stands next

/-- A row with the field yields the number it accounts for, and no other. -/
theorem nextBatchId_of_carries (table : String) {row : Row} {value : Value} {id : Int64}
    (carried : row.Carries maximumAlias value) :
    nextBatchId table (some row) = .ok id ↔ Accounts (some row) id := by
  have present := Row.get?_eq_some_iff.mpr carried
  rw [accounts_of_carries carried]
  -- A value is an integer, null, or at fault.
  cases stands : value.integer? with
  | some maximum =>
    have given : value ≠ .null := by
      rintro rfl
      cases stands
    have shown : row.integer? maximumAlias = some maximum := by
      rw [Row.integer?, present, Option.bind_some, stands]
    rw [nextBatchId_of_integer? table shown]
    simp only [given, false_and, false_or, Option.some.injEq, exists_eq_left',
      ← successor?_eq_some_iff]
    cases successor? maximum <;> simp
  | none =>
    by_cases null : value = .null
    · subst null
      rw [nextBatchId_of_null table present]
      simp [eq_comm]
    · rw [nextBatchId_of_notInteger table present null stands]
      simp [null]

/-- What reading yields is accounted for, unless the row lacks the field. -/
theorem nextBatchId_eq_ok_iff (table : String) {row : Option Row} {id : Int64} :
    nextBatchId table row = .ok id ↔ Accounts row id ∨
      id = 1 ∧ ∃ given, row = some given ∧ ∀ value, ¬given.Carries maximumAlias value := by
  cases row with
  | none =>
    have first : nextBatchId table none = .ok 1 := rfl
    rw [first]
    constructor
    · rintro ⟨⟩
      exact .inl .noRow
    · rintro (accounted | ⟨rfl, _⟩)
      · cases accounted
        rfl
      · rfl
  | some row =>
    cases found : row.get? maximumAlias with
    | some value =>
      have carried := Row.get?_eq_some_iff.mp found
      rw [nextBatchId_of_carries table carried]
      refine (or_iff_left ?_).symm
      rintro ⟨_, _, ⟨⟩, absent⟩
      exact absent value carried
    | none =>
      have absent := Row.get?_eq_none_iff.mp found
      rw [nextBatchId_of_absent table found]
      constructor
      · rintro ⟨⟩
        exact .inr ⟨rfl, row, rfl, absent⟩
      · -- Without the field a row accounts for nothing, so the number one is left.
        rintro ((_ | null | ⟨carried, _, _⟩) | ⟨rfl, _⟩)
        · exact absurd null (absent _)
        · exact absurd carried (absent _)
        · rfl

/-! ### From the connection to the number -/

theorem readResult_eq_ok_iff {table : String} {answer : Except GatewayError Cursor} {id : Int64} :
    readResult table answer = .ok id ↔ ∃ cursor row, answer = .ok cursor ∧
      cursor.next.1 = .ok row ∧ nextBatchId table row = .ok id := by
  cases answer with
  | error error => simp [readResult]
  | ok cursor =>
    simp only [readResult, Except.ok.injEq]
    cases first : cursor.next.1 with
    | error error => simp [first]
    | ok row => simp [first]

/-- What taking a number comes to, given how locking, the query and the release ended. -/
def taken (table : String) (locked : Except GatewayError Unit)
    (answer : Except GatewayError Cursor) (released : Except GatewayError Unit) :
    Except Error Int64 :=
  match locked with
  | .error error => .error (.databaseAccess .lock table error)
  | .ok () => (readResult table answer).mapError (·.underLock table released)

/-- A number is returned exactly if the lock is granted and the first read yields it. -/
theorem taken_eq_ok_iff {table : String} {locked released : Except GatewayError Unit}
    {answer : Except GatewayError Cursor} {id : Int64} :
    taken table locked answer released = .ok id ↔ locked = .ok () ∧ ∃ cursor row,
      answer = .ok cursor ∧ cursor.next.1 = .ok row ∧ nextBatchId table row = .ok id := by
  rw [← readResult_eq_ok_iff]
  cases locked with
  | error error => simp [taken]
  | ok _ =>
    simp only [taken, true_and]
    cases readResult table answer <;> simp [Except.mapError]

section Origin

variable {table : String} {locked released : Except GatewayError Unit}
  {answer : Except GatewayError Cursor}

/-- A row without the field leads to number one. -/
theorem taken_of_lacksMaximum (granted : locked = .ok ()) (lacks : LacksMaximum answer) :
    taken table locked answer released = .ok 1 := by
  obtain ⟨row, rest, answered, absent⟩ := lacks
  have yields : nextBatchId table (some row) = .ok 1 :=
    (nextBatchId_eq_ok_iff table).mpr (.inr ⟨rfl, row, rfl, absent⟩)
  exact taken_eq_ok_iff.mpr ⟨granted, .row row rest, some row, answered, rfl, yields⟩

/-- Nothing accounts for a number if the first row lacks the field. -/
theorem LacksMaximum.not_accounts (lacks : LacksMaximum answer) {cursor : Cursor}
    {row : Option Row} {id : Int64} (answered : answer = .ok cursor)
    (first : cursor.next.1 = .ok row) : ¬Accounts row id := by
  obtain ⟨given, rest, same, absent⟩ := lacks
  rw [answered] at same
  cases same
  cases first
  rintro (_ | null | ⟨carried, _, _⟩)
  · exact absent _ null
  · exact absent _ carried

/-- Otherwise the first read yields just what it accounts for. -/
theorem nextBatchId_iff_accounts (carrying : ¬LacksMaximum answer) {cursor : Cursor}
    {row : Option Row} {id : Int64} (answered : answer = .ok cursor)
    (first : cursor.next.1 = .ok row) :
    nextBatchId table row = .ok id ↔ Accounts row id := by
  rw [nextBatchId_eq_ok_iff]
  apply or_iff_left
  rintro ⟨_, given, rfl, absent⟩
  cases cursor with
  | finished => cases first
  | failed error => cases first
  | row front rest =>
    cases first
    exact carrying ⟨given, rest, answered, absent⟩

/-- Apart from such rows every number comes from what was read. -/
theorem sourced_taken (carrying : locked = .ok () → ¬LacksMaximum answer) :
    Sourced table locked answer released (taken table locked answer released) := by
  constructor
  · intro id
    rw [taken_eq_ok_iff]
    refine and_congr_right fun granted => exists_congr fun cursor => exists_congr fun row => ?_
    exact and_congr_right fun answered => and_congr_right fun first =>
      nextBatchId_iff_accounts (carrying granted) answered first
  · intro cursor row granted answered first unaccounted
    cases ended : nextBatchId table (some row) with
    | ok id =>
      have accounted := (nextBatchId_iff_accounts (carrying granted) answered first).mp ended
      exact absurd accounted (unaccounted id)
    -- Reading a row fails in one way only.
    | error error =>
      obtain ⟨fault, rfl⟩ := nextBatchId_eq_error ended
      refine ⟨fault, ?_⟩
      have read : readResult table answer = .error (.unexpectedRow table fault) := by
        simp only [answered, readResult, first, ended]
      rw [granted, taken, read]
      rfl

theorem not_sourced_taken (granted : locked = .ok ()) (lacks : LacksMaximum answer) :
    ¬Sourced table locked answer released (taken table locked answer released) := by
  intro sourced
  have one : taken table locked answer released = .ok 1 := taken_of_lacksMaximum granted lacks
  obtain ⟨_, cursor, row, answered, first, accounted⟩ := (sourced.number 1).mp one
  exact lacks.not_accounts answered first accounted

end Origin

section Taking

variable {σ : Type} (dialect : Dialect) (gateway : Gateway σ) (schema : Option String)
  (table field : String) (state : σ)

/-- Under the lock the result is that of reading; only its error hears of the release. -/
theorem result_takeBatchId :
    let name := dialect.qualifiedName schema table
    let locked := gateway.lock [name] state
    let sql := dialect.maximumQuery name (dialect.quoteName field)
    let read := (dialect.readNextBatchId name field).run gateway locked.2
    let released := (gateway.unlock [name] read.state).1
    ((dialect.takeBatchId schema table field).run gateway state).result =
      taken name locked.1 (gateway.execute sql locked.2).1 released := by
  intro name locked sql read released
  cases asked : locked.1 with
  | error error =>
    rw [takeBatchId_of_refused dialect gateway schema table field asked]
    rfl
  | ok _ =>
    rw [run_takeBatchId dialect gateway schema table field asked]
    have result : read.result = readResult name (gateway.execute sql locked.2).1 :=
      (run_readNextBatchId dialect gateway name field locked.2 .finished).1
    -- What is left is to put the outcome together, case by case.
    change ((Dialect.concludeLocked name read.result released).run gateway _ _).result = _
    rw [result, taken]
    cases readResult name (gateway.execute sql locked.2).1 <;> cases released <;> rfl

/-- A number is returned for what was read and for nothing else, except where the first row lacks
the field for the maximum; there the number is one. -/
theorem sourced_takeBatchId_iff :
    let name := dialect.qualifiedName schema table
    let locked := gateway.lock [name] state
    let sql := dialect.maximumQuery name (dialect.quoteName field)
    let answer := (gateway.execute sql locked.2).1
    let read := (dialect.readNextBatchId name field).run gateway locked.2
    let released := (gateway.unlock [name] read.state).1
    let result := ((dialect.takeBatchId schema table field).run gateway state).result
    (Sourced name locked.1 answer released result ↔ ¬(locked.1 = .ok () ∧ LacksMaximum answer)) ∧
      (locked.1 = .ok () → LacksMaximum answer → result = .ok 1) := by
  intro name locked sql answer read released result
  have ends : result = taken name locked.1 answer released :=
    result_takeBatchId dialect gateway schema table field state
  rw [ends]
  refine ⟨⟨?_, ?_⟩, taken_of_lacksMaximum⟩
  · rintro sourced ⟨granted, lacks⟩
    exact not_sourced_taken granted lacks sourced
  · intro carrying
    exact sourced_taken fun granted lacks => carrying ⟨granted, lacks⟩

end Taking

/-- A row that holds something else is taken for an empty table: one is handed out, although the
answer says nothing about the numbers in use. -/
theorem takeBatchId_not_sourced :
    let profile := (Vendor.sqlServer.configure .empty).result
    let row := Row.ofList [("next_value", .int 41)]
    let answer : Except GatewayError Cursor := .ok (.ofRows [row])
    let call := profile.dialect.takeBatchId (some "dbo") "batch" "ID_BATCH"
    let result := (call.run .prepared { queries := [answer] }).result
    result = .ok 1 ∧ (∀ id, ¬Accounts (some row) id) ∧
      ¬Sourced "dbo.batch" (.ok ()) answer (.ok ()) result := by
  intro profile row answer call result
  have one : result = .ok 1 := by decide +kernel
  have absent : ∀ value, ¬row.Carries maximumAlias value :=
    Row.get?_eq_none_iff.mp (by decide +kernel)
  have lacks : LacksMaximum answer := ⟨row, .finished, rfl, absent⟩
  have unaccounted (id : Int64) : ¬Accounts (some row) id := lacks.not_accounts rfl rfl
  refine ⟨one, unaccounted, fun sourced => ?_⟩
  obtain ⟨fault, failed⟩ := sourced.unexpected (.ofRows [row]) row rfl rfl rfl unaccounted
  rw [one] at failed
  cases failed

end VendorSql
