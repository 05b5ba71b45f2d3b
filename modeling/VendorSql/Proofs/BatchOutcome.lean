import VendorSql.Proofs.LockDiscipline

/-!
# What becomes of the failures while a number is taken

Taking a batch number has three phases: locking, reading, releasing. Its outcome is a function of
how the three ended. Every failure of the connection on the way can be found again: in the error
that is returned, in the order in which the failures happened, or, if only the release failed, in
the one warning that is reported beside the number.
-/
namespace VendorSql

/-! ### Failures of the connection -/

/-- The failure that an answer reports, if it does. -/
def failuresOf {α : Type} : Except GatewayError α → List GatewayError
  | .ok _ => []
  | .error error => [error]

/-- The failure a call met with, if it did. -/
def Call.failures : Call → List GatewayError
  | lock _ answer => failuresOf answer
  | unlock _ answer => failuresOf answer
  | execute _ answer => failuresOf answer
  | fetch answer => failuresOf answer

/-- The failures of the connection that an error tells of, in the order in which they happened. -/
def Error.failures : Error → List GatewayError
  | databaseAccess _ _ cause => [cause]
  | cleanupFailed _ _ cause cleanup => cause.failures ++ [cleanup]
  | unknownVendor _ | unsupported _ _ | unexpectedRow _ _ => []

/-! ### Reading -/

/-- What reading a number comes to, given the answer to the query. -/
def readResult (table : String) : Except GatewayError Cursor → Except Error Int64
  | .error error => .error (.databaseAccess .readMaximum table error)
  | .ok cursor => match cursor.next.1 with
    | .error error => .error (.databaseAccess .readMaximum table error)
    | .ok row => nextBatchId table row

/-- The failure of the connection while a number is read: of the query, or of the only read. -/
def readFailures : Except GatewayError Cursor → List GatewayError
  | .error error => [error]
  | .ok cursor => failuresOf cursor.next.1

/-- An error of reading is about the table and tells of the failure behind it. -/
theorem readResult_eq_error {table : String} {answer : Except GatewayError Cursor} {error : Error}
    (failed : readResult table answer = .error error) :
    error.table? = some table ∧ error.failures = readFailures answer := by
  cases answer with
  | error cause =>
    cases failed
    exact ⟨rfl, rfl⟩
  | ok cursor =>
    simp only [readResult] at failed
    simp only [readFailures]
    cases first : cursor.next.1 with
    | error cause =>
      rw [first] at failed
      cases failed
      exact ⟨rfl, rfl⟩
    | ok row =>
      rw [first] at failed
      obtain ⟨fault, rfl⟩ := nextBatchId_eq_error failed
      exact ⟨rfl, rfl⟩

/-- A number is read only if the connection did not fail. -/
theorem readFailures_of_ok {table : String} {answer : Except GatewayError Cursor} {id : Int64}
    (read : readResult table answer = .ok id) : readFailures answer = [] := by
  cases answer with
  | error cause => cases read
  | ok cursor =>
    simp only [readResult] at read
    simp only [readFailures]
    cases first : cursor.next.1 with
    | error cause =>
      rw [first] at read
      cases read
    | ok row => rfl

section Reading

variable {σ : Type} (dialect : Dialect) (gateway : Gateway σ) (table field : String) (state : σ)
  (opened : Cursor)

/-- What reading comes to depends on the answer to its query only; it is reported as one event. -/
theorem run_readNextBatchId :
    let sql := dialect.maximumQuery table (dialect.quoteName field)
    let read := (dialect.readNextBatchId table field).run gateway state opened
    read.result = readResult table (gateway.execute sql state).1 ∧
      read.events = [.readingMaximum table sql] := by
  intro sql read
  simp only [read, sql, Dialect.readNextBatchId, Dialogue.run]
  rcases (gateway.execute (dialect.maximumQuery table (dialect.quoteName field)) state).1 with
    error | (⟨row, rest⟩ | _ | error) <;> exact ⟨rfl, rfl⟩

/-- All that fails while a number is read is the query or the only read. -/
theorem failures_readNextBatchId :
    let sql := dialect.maximumQuery table (dialect.quoteName field)
    ((dialect.readNextBatchId table field).run gateway state opened).calls.flatMap Call.failures =
      readFailures (gateway.execute sql state).1 := by
  intro sql
  rw [calls_readNextBatchId]
  cases (gateway.execute sql state).1 with
  | error error => rfl
  | ok cursor => exact List.append_nil _

end Reading

/-! ### Concluding -/

/-- How taking a number ends, given how its three phases ended: the lock was asked for, the query
was answered, `read` was the result of reading, and the lock was asked back. -/
structure BatchOutcome (table : String) (locked : Except GatewayError Unit)
    (answer : Except GatewayError Cursor) (read : Except Error Int64)
    (released : Except GatewayError Unit) (failures : List GatewayError)
    (result : Except Error Int64) (events : List Event) : Prop where
  /-- A lock that is refused is an access that failed. -/
  refused : ∀ error, locked = .error error →
    result = .error (.databaseAccess .lock table error)
  /-- A number that was read is the result, whether or not the lock could be released. -/
  taken : ∀ id, locked = .ok () → read = .ok id → result = .ok id
  /-- A failure of reading alone stays as it is. -/
  unread : ∀ error, locked = .ok () → read = .error error → released = .ok () →
    result = .error error
  /-- If the release fails as well, both failures are reported. -/
  stuck : ∀ error cleanup, locked = .ok () → read = .error error → released = .error cleanup →
    result = .error (.cleanupFailed .readMaximum table error cleanup)
  /-- A query that fails makes reading an access that failed. -/
  unanswered : ∀ error, answer = .error error →
    read = .error (.databaseAccess .readMaximum table error)
  /-- So does a read of its answer that fails. -/
  broken : ∀ cursor error, answer = .ok cursor → cursor.next.1 = .error error →
    read = .error (.databaseAccess .readMaximum table error)
  /-- The one warning is of a release that failed after a number was read. -/
  warned : ∀ id cleanup, locked = .ok () → read = .ok id → released = .error cleanup →
    events.filter (·.level = .warning) = [.unlockFailed table cleanup]
  /-- Otherwise there is no warning. -/
  quiet : (∀ id cleanup, ¬(locked = .ok () ∧ read = .ok id ∧ released = .error cleanup)) →
    events.filter (·.level = .warning) = []
  /-- Every error names the table. -/
  named : ∀ error, result = .error error → error.table? = some table
  /-- Every error tells of all that failed, in the order in which it failed. -/
  kept : ∀ error, result = .error error → error.failures = failures
  /-- Beside a number nothing can have failed but the release. -/
  logged : ∀ id, result = .ok id → failures = failuresOf released
  /-- The actions that fail, in words. -/
  worded : Action.lock.text = "lock" ∧ Action.readMaximum.text = "read max value"

/-- A refused lock is the only failure, and nothing is said. -/
theorem batchOutcome_refused (table : String) (answer : Except GatewayError Cursor)
    (released : Except GatewayError Unit) (error : GatewayError) :
    BatchOutcome table (.error error) answer (readResult table answer) released [error]
      (.error (.databaseAccess .lock table error)) [] := by
  -- All that needs the lock is vacuous.
  refine {
    refused := ?refused, taken := nofun, unread := nofun, stuck := nofun
    unanswered := ?unanswered, broken := ?broken, warned := nofun, quiet := fun _ => rfl
    named := ?named, kept := ?kept, logged := nofun, worded := ⟨rfl, rfl⟩ }
  case refused =>
    rintro _ ⟨⟩
    rfl
  case unanswered =>
    rintro cause rfl
    rfl
  case broken =>
    rintro cursor cause rfl failed
    simp only [readResult, failed]
  case named =>
    rintro _ ⟨⟩
    rfl
  case kept =>
    rintro _ ⟨⟩
    rfl

section Concluding

variable {σ : Type} (gateway : Gateway σ) (state : σ) (opened : Cursor) {table : String}
  {read : Except Error Int64} {released : Except GatewayError Unit}

theorem eq_ok_of_concludeLocked {id : Int64}
    (taken : ((Dialect.concludeLocked table read released).run gateway state opened).result =
      .ok id) :
    read = .ok id := by
  cases read with
  | ok number => cases released <;> exact taken
  | error cause => cases released <;> cases taken

/-- Putting the phases together fails only if reading did; the error is that of reading, or has it
inside if there was no release either. -/
theorem eq_error_of_concludeLocked {error : Error}
    (failed : ((Dialect.concludeLocked table read released).run gateway state opened).result =
      .error error) :
    ∃ cause, read = .error cause ∧
      (released = .ok () ∧ error = cause ∨
        ∃ cleanup, released = .error cleanup ∧
          error = .cleanupFailed .readMaximum table cause cleanup) := by
  -- A number is never turned into an error, whatever becomes of the release.
  cases read with
  | ok id => cases released <;> cases failed
  | error cause =>
    refine ⟨cause, rfl, ?_⟩
    cases released with
    | ok _ =>
      cases failed
      exact .inl ⟨rfl, rfl⟩
    | error cleanup =>
      cases failed
      exact .inr ⟨cleanup, rfl, rfl⟩

end Concluding

/-- Under the lock, how reading and releasing ended decides. -/
theorem batchOutcome_granted {σ : Type} (gateway : Gateway σ) (state : σ) (opened : Cursor)
    (table sql : String) (answer : Except GatewayError Cursor)
    (released : Except GatewayError Unit) :
    let read := readResult table answer
    let last := (Dialect.concludeLocked table read released).run gateway state opened
    BatchOutcome table (.ok ()) answer read released (readFailures answer ++ failuresOf released)
      last.result (.acquiredLock table :: ([.readingMaximum table sql] ++ last.events)) := by
  intro read last
  refine {
    refused := nofun, taken := ?taken, unread := ?unread, stuck := ?stuck
    unanswered := ?unanswered, broken := ?broken, warned := ?warned, quiet := ?quiet
    named := ?named, kept := ?kept, logged := ?logged, worded := ⟨rfl, rfl⟩ }
  case taken =>
    intro id _ taken
    simp only [last, taken]
    cases released <;> rfl
  case unread =>
    rintro error _ unread rfl
    simp only [last, unread]
    rfl
  case stuck =>
    rintro error cleanup _ unread rfl
    simp only [last, unread]
    rfl
  case unanswered =>
    rintro error rfl
    rfl
  case broken =>
    rintro cursor error rfl failed
    simp only [read, readResult, failed]
  case warned =>
    rintro id cleanup _ taken rfl
    simp only [last, taken]
    rfl
  case quiet =>
    -- The only warning there is needs a number and a release that failed.
    intro otherwise
    cases ended : read with
    | ok id =>
      cases released with
      | ok _ =>
        simp only [last, ended]
        rfl
      | error cleanup => exact absurd ⟨rfl, ended, rfl⟩ (otherwise id cleanup)
    | error error =>
      simp only [last, ended]
      cases released <;> rfl
  case named =>
    intro error failed
    obtain ⟨cause, unread, ⟨_, rfl⟩ | ⟨cleanup, _, rfl⟩⟩ :=
      eq_error_of_concludeLocked gateway state opened failed
    · exact (readResult_eq_error unread).1
    · rfl
  case kept =>
    -- The error of reading tells of what failed before the release, and comes first.
    intro error failed
    obtain ⟨cause, unread, ⟨rfl, rfl⟩ | ⟨cleanup, rfl, rfl⟩⟩ :=
      eq_error_of_concludeLocked gateway state opened failed
    · rw [(readResult_eq_error unread).2]
      exact (List.append_nil _).symm
    · rw [← (readResult_eq_error unread).2]
      rfl
  case logged =>
    intro id taken
    rw [readFailures_of_ok (eq_ok_of_concludeLocked gateway state opened taken), List.nil_append]

/-! ### Taking -/

section Taking

variable {σ : Type} (dialect : Dialect) (gateway : Gateway σ) (schema : Option String)
  (table field : String) {state : σ}

/-- A refused lock is all that happens. -/
theorem takeBatchId_of_refused {error : GatewayError}
    (refused : (gateway.lock [dialect.qualifiedName schema table] state).1 = .error error) :
    let name := dialect.qualifiedName schema table
    (dialect.takeBatchId schema table field).run gateway state =
      { result := .error (.databaseAccess .lock name error)
        state := (gateway.lock [name] state).2
        calls := [.lock [name] (.error error)] } := by
  simp only [Dialect.takeBatchId, Dialogue.run, refused]

/-- If the lock is granted, reading comes next, then the release, and then both are put together. -/
theorem run_takeBatchId
    (granted : (gateway.lock [dialect.qualifiedName schema table] state).1 = .ok ()) :
    let name := dialect.qualifiedName schema table
    let read := (dialect.readNextBatchId name field).run gateway (gateway.lock [name] state).2
    let released := gateway.unlock [name] read.state
    let last := (Dialect.concludeLocked name read.result released.1).run gateway released.2
      read.opened
    (dialect.takeBatchId schema table field).run gateway state =
      { last with
        calls := .lock [name] (.ok ()) :: (read.calls ++ [.unlock [name] released.1])
        events := .acquiredLock name :: (read.events ++ last.events) } := by
  simp only [Dialect.takeBatchId, Dialogue.run, granted, Dialogue.run_bind, calls_concludeLocked]

/-- However the connection answers, taking a number ends as its phases say, given the failures that
its calls met with. -/
theorem takeBatchId_outcome (state : σ) :
    let name := dialect.qualifiedName schema table
    let locked := gateway.lock [name] state
    let sql := dialect.maximumQuery name (dialect.quoteName field)
    let answer := (gateway.execute sql locked.2).1
    let read := (dialect.readNextBatchId name field).run gateway locked.2
    let released := (gateway.unlock [name] read.state).1
    let outcome := (dialect.takeBatchId schema table field).run gateway state
    let failures := outcome.calls.flatMap Call.failures
    BatchOutcome name locked.1 answer read.result released failures outcome.result
      outcome.events := by
  intro name locked sql answer read released outcome failures
  obtain ⟨result, events⟩ : read.result = readResult name answer ∧
      read.events = [.readingMaximum name sql] :=
    run_readNextBatchId dialect gateway name field locked.2 .finished
  cases asked : locked.1 with
  | error error =>
    have held := takeBatchId_of_refused dialect gateway schema table field asked
    simp only [outcome, failures, held, result]
    exact batchOutcome_refused name answer released error
  | ok _ =>
    have held := run_takeBatchId dialect gateway schema table field asked
    -- The calls that failed are those of reading, and the release.
    have failed : failures = readFailures answer ++ failuresOf released := by
      have reading : read.calls.flatMap Call.failures = readFailures answer :=
        failures_readNextBatchId dialect gateway name field locked.2 .finished
      simp only [failures, outcome, held, List.flatMap_cons, List.flatMap_append]
      rw [reading]
      exact congrArg (readFailures answer ++ ·) (List.append_nil _)
    have granted := batchOutcome_granted gateway (gateway.unlock [name] read.state).2 read.opened
      name sql answer released
    rw [← result, ← events, ← failed] at granted
    simpa only [outcome, held] using granted

end Taking

end VendorSql
