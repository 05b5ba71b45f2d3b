import VendorSql.Introspection
import VendorSql.Vendor.Builtin
import Mathlib.Logic.Function.Basic

/-!
# Batch numbers of concurrent clients

Any number of clients take a batch number of one table, each of them once, and then insert a row
that carries it. Their steps interleave freely; the connection locks a table for one client at a
time, answers the query for the maximum, and never fails.

The lock is given back before the row is inserted. So it puts the readings in order, the lock being
handed over between any two, and the numbers never decrease in that order, but two clients get the
same number unless a row that is at least as great has been inserted between their readings.
-/
namespace VendorSql.Numbering

/-! ### Clients of one table -/

/-- How far a client is: it still talks to the database, or it has inserted its row. -/
inductive Progress where
  | calling (rest : Dialogue (Except Error Int64))
  | inserted (id : Int64)

def Progress.returned? : Progress → Option Int64
  | calling (.done (.ok id)) => some id
  | calling _ => none
  | inserted id => some id

/-- A table, with the numbers in its rows, the locks that are held, and the clients. -/
structure Shared (Client : Type) where
  rows : List Int64
  locks : String → Option Client
  clients : Client → Progress

/-- What a client does in one step; `work` stands for what the database does not see or what
concerns the open answer only. -/
inductive Move (Client : Type) where
  | work (client : Client)
  | lock (client : Client)
  | unlock (client : Client)
  | read (client : Client)
  | insert (client : Client) (id : Int64)
  deriving Repr, DecidableEq

namespace Move

variable {Client : Type}

def client : Move Client → Client
  | work client | lock client | unlock client | read client | insert client _ => client

def inserted? : Move Client → Option Int64
  | insert _ id => some id
  | _ => none

end Move

def insertedIds {Client : Type} (trace : List (Move Client)) : List Int64 :=
  trace.filterMap Move.inserted?

/-- The numbers in a table after several moves, the latest first. -/
def rowsAfter {Client : Type} (rows : List Int64) (trace : List (Move Client)) : List Int64 :=
  (insertedIds trace).reverse ++ rows

/-- A row shows the greatest of the numbers, or null if there are none. -/
def ShowsMaximum (rows : List Int64) (row : Row) : Prop :=
  (rows = [] ∧ row.get? maximumAlias = some .null) ∨
    ∃ greatest ∈ rows, (∀ id ∈ rows, id ≤ greatest) ∧ row.integer? maximumAlias = some greatest

/-- The query for the maximum is answered with it, in the first row; nothing is said about another
query. -/
def Answers (query : String) (rows : List Int64) (sql : String)
    (answer : Except GatewayError Cursor) : Prop :=
  sql = query → ∃ row rest, answer = .ok (.row row rest) ∧ ShowsMaximum rows row

section Steps

variable {Client : Type} [DecidableEq Client]

namespace Shared

def proceed (shared : Shared Client) (client : Client) (rest : Dialogue (Except Error Int64)) :
    Shared Client :=
  { shared with clients := Function.update shared.clients client (.calling rest) }

def acquire (shared : Shared Client) (client : Client) (tables : List String) : Shared Client :=
  { shared with
    locks := fun table => if table ∈ tables then some client else shared.locks table }

/-- Gives back what the client itself holds; a lock of another client stays. -/
def release (shared : Shared Client) (client : Client) (tables : List String) : Shared Client :=
  { shared with
    locks := fun table =>
      if table ∈ tables ∧ shared.locks table = some client then none else shared.locks table }

def add (shared : Shared Client) (client : Client) (id : Int64) : Shared Client :=
  { shared with
    rows := id :: shared.rows
    clients := Function.update shared.clients client (.inserted id) }

def initial (call : Dialogue (Except Error Int64)) (rows : List Int64) : Shared Client where
  rows := rows
  locks := fun _ => none
  clients := fun _ => .calling call

end Shared

/-- One step of one client, with a connection that knows the answer to `query`. A lock is granted
only while no one holds it. -/
inductive Step (query : String) : Shared Client → Move Client → Shared Client → Prop
  | report {shared client event rest} :
    shared.clients client = .calling (.report event rest) →
    Step query shared (.work client) (shared.proceed client rest)
  | fetch {shared client rest} :
    shared.clients client = .calling (.fetch rest) →
    Step query shared (.work client) (shared.proceed client rest)
  | lock {shared client tables rest} :
    shared.clients client = .calling (.lock tables rest) →
    (∀ table ∈ tables, shared.locks table = none) →
    Step query shared (.lock client)
      ((shared.acquire client tables).proceed client (rest (.ok ())))
  | unlock {shared client tables rest} :
    shared.clients client = .calling (.unlock tables rest) →
    Step query shared (.unlock client)
      ((shared.release client tables).proceed client (rest (.ok ())))
  | read {shared client sql rest answer} :
    shared.clients client = .calling (.execute sql rest) →
    Answers query shared.rows sql answer →
    Step query shared (.read client) (shared.proceed client (rest answer))
  | insert {shared client id} :
    shared.clients client = .calling (.done (.ok id)) →
    Step query shared (.insert client id) (shared.add client id)

/-- Several steps, with their moves in order. -/
inductive Steps (query : String) : Shared Client → List (Move Client) → Shared Client → Prop
  | nil {shared} : Steps query shared [] shared
  | cons {shared move middle moves next} : Step query shared move middle →
    Steps query middle moves next → Steps query shared (move :: moves) next

/-- Any number of steps of clients that all take the next number of one field, from a table with
the given rows. -/
inductive Run (dialect : Dialect) (schema : Option String) (table field : String)
    (rows : List Int64) : List (Move Client) → Shared Client → Prop
  | start : Run dialect schema table field rows []
      (.initial (dialect.takeBatchId schema table field) rows)
  | step {trace shared move next} :
    Run dialect schema table field rows trace shared →
    Step (dialect.maximumQuery (dialect.qualifiedName schema table) (dialect.quoteName field))
      shared move next →
    Run dialect schema table field rows (trace ++ [move]) next

end Steps

/-! ### What one client does -/

/-- What is left of a dialogue that locks tables, puts a query, makes its result of the first row
and gives the tables back. The result is there once the row has been read; `held` tells whether the
tables are locked. -/
inductive Stage {α : Type} (tables : List String) (query : String) (outcome : Row → α) :
    Option α → Bool → Dialogue α → Prop
  | report {result held event rest} : Stage tables query outcome result held rest →
    Stage tables query outcome result held (.report event rest)
  | fetch {result held rest} : Stage tables query outcome result held rest →
    Stage tables query outcome result held (.fetch rest)
  | lock {rest} : Stage tables query outcome none true (rest (.ok ())) →
    Stage tables query outcome none false (.lock tables rest)
  | execute {rest} :
    (∀ row cursor,
      Stage tables query outcome (some (outcome row)) true (rest (.ok (.row row cursor)))) →
    Stage tables query outcome none true (.execute query rest)
  | unlock {result rest} : Stage tables query outcome (some result) false (rest (.ok ())) →
    Stage tables query outcome (some result) true (.unlock tables rest)
  | done {result} : Stage tables query outcome (some result) false (.done result)

/-- Taking a batch number goes through the stages, from a lock that is not held yet. -/
theorem stage_takeBatchId (dialect : Dialect) (schema : Option String) (table field : String) :
    let name := dialect.qualifiedName schema table
    Stage [name] (dialect.maximumQuery name (dialect.quoteName field))
      (fun row => nextBatchId name (some row)) none false
      (dialect.takeBatchId schema table field) := by
  intro name
  refine .lock (.report (.report (.execute ?_)))
  intro row cursor
  -- Whether or not the row has a next number, it is fetched and the table is unlocked.
  refine .fetch (.unlock ?_)
  change Stage _ _ _ _ _ (Dialect.concludeLocked name (nextBatchId name (some row)) (.ok ()))
  cases nextBatchId name (some row) with
  | error error => exact .done
  | ok id => exact .done

/-- Where a client stands whose dialogue has these stages; once it has a number it may insert it. -/
inductive Progress.At (tables : List String) (query : String)
    (outcome : Row → Except Error Int64) : Option (Except Error Int64) → Bool → Progress → Prop
  | calling {result held rest} : Stage tables query outcome result held rest →
    At tables query outcome result held (.calling rest)
  | inserted {id} : At tables query outcome (some (.ok id)) false (.inserted id)

section Steps

variable {Client : Type} [DecidableEq Client] {tables : List String} {query : String}
variable {outcome : Row → Except Error Int64} {result : Option (Except Error Int64)} {held : Bool}
variable {shared next : Shared Client} {move : Move Client} {client : Client}

/-- The number a client has got is the result of its stage. -/
theorem Progress.At.result_eq {progress : Progress} {id : Int64}
    (stands : progress.At tables query outcome result held)
    (returned : progress.returned? = some id) : result = some (.ok id) := by
  cases stands with
  | inserted =>
    cases returned
    rfl
  | calling stage =>
    -- A call that goes on has no number yet.
    cases stage with
    | @done value =>
      cases value with
      | error error => cases returned
      | ok value =>
        cases returned
        rfl
    | report _ => cases returned
    | fetch _ => cases returned
    | lock _ => cases returned
    | execute _ => cases returned
    | unlock _ => cases returned

theorem Progress.At.stage {progress : Progress} {rest : Dialogue (Except Error Int64)}
    (stands : progress.At tables query outcome result held)
    (calling : progress = .calling rest) : Stage tables query outcome result held rest := by
  cases stands with
  | calling stage =>
    cases calling
    exact stage
  | inserted => cases calling

theorem Progress.at_proceed {rest : Dialogue (Except Error Int64)}
    (stage : Stage tables query outcome result held rest) :
    ((shared.proceed client rest).clients client).At tables query outcome result held := by
  simp only [Shared.proceed, Function.update_self]
  exact .calling stage

/-! ### One step -/

/-- Only an insertion changes the rows. -/
theorem Step.rows_eq (step : Step query shared move next) :
    next.rows = rowsAfter shared.rows [move] := by
  cases step <;> rfl

theorem Step.clients_of_ne (step : Step query shared move next) (other : client ≠ move.client) :
    next.clients client = shared.clients client := by
  cases step <;> exact Function.update_of_ne other _ _

/-- A step of another client takes no lock away. -/
theorem Step.locks_of_ne (step : Step query shared move next) (other : client ≠ move.client)
    {table : String} (held : shared.locks table = some client) :
    next.locks table = some client := by
  cases step with
  | @lock _ tables rest _ free =>
    -- What is granted was free, so it is not what the client holds.
    have untouched : table ∉ tables := by
      intro inside
      rw [free table inside] at held
      cases held
    exact (if_neg untouched).trans held
  | unlock _ =>
    -- A release concerns the locks of the client that asks for it.
    refine (if_neg ?_).trans held
    rintro ⟨_, same⟩
    rw [held] at same
    exact other (Option.some.inj same)
  | report _ => exact held
  | fetch _ => exact held
  | read _ _ => exact held
  | insert _ => exact held

/-- A step takes its client to the next stage, and a result can only come from a reading. -/
theorem Step.at_next (step : Step query shared move next)
    (stands : (shared.clients move.client).At tables query outcome result held)
    (locked : held = true → ∀ table ∈ tables, shared.locks table = some move.client) :
    ∃ result' held', (next.clients move.client).At tables query outcome result' held' ∧
      (held' = true → ∀ table ∈ tables, next.locks table = some move.client) ∧
      (result' = result ∨ move = .read move.client ∧
        ∃ row, ShowsMaximum shared.rows row ∧ result' = some (outcome row)) := by
  -- The stage fits one kind of step only, so each step leaves a single way to go on.
  cases step with
  | report calling =>
    cases stands.stage calling with
    | report later => exact ⟨_, _, Progress.at_proceed later, locked, .inl rfl⟩
  | fetch calling =>
    cases stands.stage calling with
    | fetch later => exact ⟨_, _, Progress.at_proceed later, locked, .inl rfl⟩
  | lock calling free =>
    cases stands.stage calling with
    | lock later =>
      exact ⟨_, _, Progress.at_proceed later, fun _ table inside => if_pos inside, .inl rfl⟩
  | unlock calling =>
    cases stands.stage calling with
    | unlock later => exact ⟨_, false, Progress.at_proceed later, nofun, .inl rfl⟩
  | read calling answers =>
    cases stands.stage calling with
    | execute later =>
      obtain ⟨row, cursor, rfl, shown⟩ := answers rfl
      exact ⟨_, _, Progress.at_proceed (later row cursor), locked,
        .inr ⟨rfl, row, shown, rfl⟩⟩
  | insert calling =>
    cases stands.stage calling with
    | done =>
      refine ⟨_, false, ?_, nofun, .inl rfl⟩
      simp only [Move.client, Shared.add, Function.update_self]
      exact .inserted

end Steps

/-! ### A whole run -/

section Runs

variable {Client : Type} {tables : List String} {query : String}
variable {outcome : Row → Except Error Int64} {rows : List Int64} {trace : List (Move Client)}
variable {client : Client} {value : Except Error Int64}

theorem insertedIds_append (first second : List (Move Client)) :
    insertedIds (first ++ second) = insertedIds first ++ insertedIds second :=
  List.filterMap_append

theorem rowsAfter_append (rows : List Int64) (first second : List (Move Client)) :
    rowsAfter rows (first ++ second) = rowsAfter (rowsAfter rows first) second := by
  simp only [rowsAfter, insertedIds_append, List.reverse_append, List.append_assoc]

/-- A client has read the maximum of the rows at that time, and the result comes from it. -/
def ReadIn (outcome : Row → Except Error Int64) (rows : List Int64) (trace : List (Move Client))
    (client : Client) (value : Except Error Int64) : Prop :=
  ∃ before after row, trace = before ++ .read client :: after ∧
    ShowsMaximum (rowsAfter rows before) row ∧ value = outcome row

theorem ReadIn.append (read : ReadIn outcome rows trace client value) (later : List (Move Client)) :
    ReadIn outcome rows (trace ++ later) client value := by
  obtain ⟨before, after, row, rfl, shown⟩ := read
  exact ⟨before, after ++ later, row, List.append_assoc _ _ _, shown⟩

/-- The rows are those that were there and those that were inserted; whoever is between locking and
unlocking holds the locks; and every result has been read. -/
structure Consistent (tables : List String) (query : String)
    (outcome : Row → Except Error Int64) (rows : List Int64) (trace : List (Move Client))
    (shared : Shared Client) : Prop where
  rows_eq : shared.rows = rowsAfter rows trace
  stands : ∀ client, ∃ result held,
    (shared.clients client).At tables query outcome result held ∧
    (held = true → ∀ table ∈ tables, shared.locks table = some client) ∧
    ∀ value, result = some value → ReadIn outcome rows trace client value

variable [DecidableEq Client] {shared next : Shared Client} {move : Move Client}
variable {dialect : Dialect} {schema : Option String} {table field : String}

/-- One step, whoever takes it, keeps all three parts consistent. -/
theorem Consistent.step (consistent : Consistent tables query outcome rows trace shared)
    (step : Step query shared move next) :
    Consistent tables query outcome rows (trace ++ [move]) next := by
  constructor
  · rw [step.rows_eq, consistent.rows_eq, rowsAfter_append]
  intro client
  obtain ⟨result, held, stands, locked, read⟩ := consistent.stands client
  -- Whoever moved goes on to the next stage, and everyone else stays and keeps the locks.
  by_cases own : client = move.client
  · subst own
    obtain ⟨result', held', stands', locked', origin⟩ := step.at_next stands locked
    refine ⟨result', held', stands', locked', ?_⟩
    intro value got
    rcases origin with rfl | ⟨reading, row, shown, rfl⟩
    · exact (read value got).append _
    · cases got
      rw [consistent.rows_eq] at shown
      exact ⟨trace, [], row, by rw [← reading], shown, rfl⟩
  · refine ⟨result, held, ?_, ?_, fun value got => (read value got).append _⟩
    · rw [step.clients_of_ne own]
      exact stands
    · intro holds table inside
      exact step.locks_of_ne own (locked holds table inside)

/-- From the first step on everything is consistent. -/
theorem Run.consistent (run : Run dialect schema table field rows trace shared) :
    let name := dialect.qualifiedName schema table
    Consistent [name] (dialect.maximumQuery name (dialect.quoteName field))
      (fun row => nextBatchId name (some row)) rows trace shared := by
  intro name
  induction run with
  | start =>
    -- Every client has the whole call before it, and no lock is held.
    refine ⟨rfl, fun client => ⟨none, false, ?_, nofun, nofun⟩⟩
    exact .calling (stage_takeBatchId dialect schema table field)
  | step _ step ih => exact ih.step step

/-- A client that reads holds the lock. -/
theorem Run.locks_of_read {query : String}
    (run : Run dialect schema table field rows trace shared)
    (step : Step query shared (.read client) next) :
    shared.locks (dialect.qualifiedName schema table) = some client ∧
      next.locks = shared.locks := by
  obtain ⟨result, held, stands, locked, _⟩ := run.consistent.stands client
  cases step with
  | read reading _ =>
    cases stands.stage reading with
    | execute _ => exact ⟨locked rfl _ (List.mem_singleton.mpr rfl), rfl⟩

/-- Whoever has a number has read a maximum that it follows. -/
theorem Run.readIn_of_returned {id : Int64}
    (run : Run dialect schema table field rows trace shared)
    (returned : (shared.clients client).returned? = some id) :
    ReadIn (fun row => nextBatchId (dialect.qualifiedName schema table) (some row)) rows trace
      client (.ok id) := by
  obtain ⟨result, held, stands, _, read⟩ := run.consistent.stands client
  exact read _ (stands.result_eq returned)

end Runs

/-! ### The lock between two readings -/

section Handover

variable {Client : Type} [DecidableEq Client] {query table : String} {i j : Client}
variable {shared middle next : Shared Client} {move : Move Client} {moves more : List (Move Client)}

/-- A lock is only lost by giving it back. -/
theorem Step.eq_unlock (step : Step query shared move next)
    (held : shared.locks table = some i) (lost : next.locks table ≠ some i) : move = .unlock i := by
  by_cases own : i = move.client
  · cases step with
    | unlock _ => rw [own, Move.client]
    | lock _ _ =>
      subst own
      simp only [Shared.proceed, Shared.acquire] at lost
      split at lost <;> contradiction
    | report _ => exact absurd held lost
    | fetch _ => exact absurd held lost
    | read _ _ => exact absurd held lost
    | insert _ => exact absurd held lost
  · exact absurd (step.locks_of_ne own held) lost

/-- And only got by asking for it. -/
theorem Step.eq_lock (step : Step query shared move next)
    (free : shared.locks table ≠ some j) (got : next.locks table = some j) : move = .lock j := by
  -- Only a grant gives a lock to anyone; a release can only take it away.
  cases step with
  | lock _ _ =>
    simp only [Shared.proceed, Shared.acquire] at got
    split at got
    · cases got
      rfl
    · exact absurd got free
  | unlock _ =>
    simp only [Shared.proceed, Shared.release] at got
    split at got
    · cases got
    · exact absurd got free
  | report _ => exact absurd got free
  | fetch _ => exact absurd got free
  | read _ _ => exact absurd got free
  | insert _ => exact absurd got free

/-- A lock that a client gets on the way has been granted to it in one of the moves. -/
theorem Steps.lock_mem (steps : Steps query shared moves next)
    (free : shared.locks table ≠ some j) (got : next.locks table = some j) :
    .lock j ∈ moves := by
  induction steps with
  | nil => exact absurd got free
  | @cons shared move middle moves next step _ ih =>
    by_cases now : middle.locks table = some j
    · rw [step.eq_lock free now]
      exact List.mem_cons_self
    · exact List.mem_cons_of_mem _ (ih now got)

/-- One client gives its lock back, and after that another one gets it. -/
def HandedOver (moves : List (Move Client)) (i j : Client) : Prop :=
  ∃ front back, moves = front ++ .unlock i :: back ∧ .lock j ∈ back

/-- A lock cannot pass from one client to another in any other way. -/
theorem Steps.handedOver (steps : Steps query shared moves next) (differ : i ≠ j)
    (held : shared.locks table = some i) (got : next.locks table = some j) :
    HandedOver moves i j := by
  induction steps with
  | nil =>
    rw [held] at got
    exact absurd (Option.some.inj got) differ
  | @cons shared move middle moves next step later ih =>
    by_cases still : middle.locks table = some i
    · obtain ⟨front, back, rfl, inside⟩ := ih still got
      exact ⟨move :: front, back, rfl, inside⟩
    -- This is where it is given back; no one has it right after that.
    · have returned : move = .unlock i := step.eq_unlock held still
      have free : middle.locks table ≠ some j := by
        intro taken
        have asked : move = .lock j := step.eq_lock (by simp [held, differ]) taken
        rw [returned] at asked
        cases asked
      rw [returned]
      exact ⟨[], moves, rfl, later.lock_mem free got⟩

theorem Steps.concat (steps : Steps query shared moves middle)
    (step : Step query middle move next) : Steps query shared (moves ++ [move]) next := by
  induction steps with
  | nil => exact .cons step .nil
  | cons first _ ih => exact .cons first (ih step)

variable {dialect : Dialect} {schema : Option String} {field : String} {rows : List Int64}

/-- A run is its beginning and the steps after it. -/
theorem Run.split (run : Run dialect schema table field rows (moves ++ more) shared) :
    let name := dialect.qualifiedName schema table
    ∃ middle, Run dialect schema table field rows moves middle ∧
      Steps (dialect.maximumQuery name (dialect.quoteName field)) middle more shared := by
  intro name
  generalize whole : moves ++ more = trace at run
  induction run generalizing more with
  | start =>
    obtain ⟨rfl, rfl⟩ := List.append_eq_nil_iff.mp whole
    exact ⟨_, .start, .nil⟩
  | @step trace shared move next run step ih =>
    -- The last move ends the second part, unless that is empty.
    rcases List.eq_nil_or_concat more with rfl | ⟨front, last, rfl⟩
    · rw [List.append_nil] at whole
      subst whole
      exact ⟨next, .step run step, .nil⟩
    · rw [List.concat_eq_append, ← List.append_assoc] at whole
      obtain ⟨earlier, same⟩ := List.append_inj' whole rfl
      obtain ⟨middle, begun, steps⟩ := ih earlier
      cases same
      rw [List.concat_eq_append]
      exact ⟨middle, begun, steps.concat step⟩

/-- Between the readings of two clients the lock is handed over. -/
theorem Run.handedOver {before between after : List (Move Client)}
    (run : Run dialect schema table field rows
      (before ++ .read i :: (between ++ .read j :: after)) shared) (differ : i ≠ j) :
    HandedOver between i j := by
  have whole : before ++ Move.read i :: (between ++ .read j :: after) =
      (before ++ .read i :: between) ++ .read j :: after := by simp
  rw [whole] at run
  obtain ⟨second, begun, rest⟩ := run.split
  obtain ⟨first, started, steps⟩ := begun.split
  cases rest with
  | cons later _ =>
    cases steps with
    | cons earlier moved =>
      -- The lock is held at either reading, by the client that reads.
      obtain ⟨held, same⟩ := started.locks_of_read earlier
      rw [← same] at held
      exact moved.handedOver differ held (begun.locks_of_read later).1

end Handover

/-! ### The number after the maximum -/

/-- A number is the next one after those in a table: one more than the greatest, or one. -/
def Follows (rows : List Int64) (id : Int64) : Prop :=
  (rows = [] ∧ id.toInt = 1) ∨
    ∃ greatest ∈ rows, (∀ row ∈ rows, row ≤ greatest) ∧ id.toInt = greatest.toInt + 1

/-- The number made of a row with the maximum is the next one after those in the table. -/
theorem follows_of_nextBatchId {table : String} {rows : List Int64} {row : Row} {id : Int64}
    (shown : ShowsMaximum rows row) (next : nextBatchId table (some row) = .ok id) :
    Follows rows id := by
  rcases shown with ⟨none, null⟩ | ⟨greatest, inside, bound, shown⟩
  · rw [nextBatchId_of_null table null] at next
    cases next
    exact .inl ⟨none, rfl⟩
  · rw [nextBatchId_of_integer? table shown] at next
    split at next
    next valid =>
      cases next
      exact .inr ⟨greatest, inside, bound, toInt_of_successor? valid⟩
    next => cases next

/-- A number read later is as great at least, and the same number only if all that was inserted in
between is less. -/
theorem Follows.later {rows more : List Int64} {first second : Int64}
    (early : Follows rows first) (late : Follows (more ++ rows) second)
    (positive : rows = [] → ∀ id ∈ more, 0 < id.toInt) :
    first ≤ second ∧ (first = second ↔ ∀ id ∈ more, id < first) := by
  simp only [Int64.le_iff_toInt_le, Int64.lt_iff_toInt_lt, ← Int64.toInt_inj]
  rcases early with ⟨rfl, one⟩ | ⟨greatest, inside, bound, next⟩
  -- In an empty table the first number is one, and any row inserted since is as great.
  · rcases late with ⟨none, one'⟩ | ⟨last, within, _, next'⟩
    · simp only [List.append_nil] at none
      simp [none, one, one']
    · rw [List.append_nil] at within
      have above := positive rfl last within
      refine ⟨by omega, fun same => by omega, fun less => ?_⟩
      have below := less last within
      omega
  -- Otherwise the maximum has not become less, and only what was inserted can have raised it.
  · rcases late with ⟨none, _⟩ | ⟨last, within, bound', next'⟩
    · rw [(List.append_eq_nil_iff.mp none).2] at inside
      cases inside
    · have grown := bound' greatest (List.mem_append_right more inside)
      rw [Int64.le_iff_toInt_le] at grown
      refine ⟨by omega, fun same id added => ?_, fun less => ?_⟩
      · have most := bound' id (List.mem_append_left rows added)
        rw [Int64.le_iff_toInt_le] at most
        omega
      · rcases List.mem_append.mp within with added | old
        · have below := less last added
          omega
        · have below := bound last old
          rw [Int64.le_iff_toInt_le] at below
          omega

/-! ### A call that nothing stands in the way of -/

section Alone

variable {Client : Type} [DecidableEq Client] {dialect : Dialect} {schema : Option String}
variable {table field : String} {rows : List Int64} {trace : List (Move Client)}
variable {shared : Shared Client}

theorem Shared.clients_proceed (shared : Shared Client) (client : Client)
    (rest : Dialogue (Except Error Int64)) :
    (shared.proceed client rest).clients client = .calling rest :=
  Function.update_self _ _ _

theorem Shared.proceed_proceed (shared : Shared Client) (client : Client)
    (first second : Dialogue (Except Error Int64)) :
    (shared.proceed client first).proceed client second = shared.proceed client second := by
  simp only [proceed, Function.update_idem]

theorem Shared.release_proceed (shared : Shared Client) (client other : Client)
    (rest : Dialogue (Except Error Int64)) (tables : List String) :
    (shared.proceed client rest).release other tables =
      (shared.release other tables).proceed client rest :=
  rfl

/-- Locks that no one held are free again after they have been given back. -/
theorem Shared.release_acquire {tables : List String} (client : Client)
    (free : ∀ table ∈ tables, shared.locks table = none) :
    (shared.acquire client tables).release client tables = shared := by
  have same : ((shared.acquire client tables).release client tables).locks = shared.locks := by
    funext table
    by_cases inside : table ∈ tables
    · simp [acquire, release, inside, free table inside]
    · simp [acquire, release, inside]
  cases shared
  exact congrArg (Shared.mk _ · _) same

/-- A row with nothing but the maximum. -/
theorem showsMaximum_single {rows : List Int64} {greatest : Int64} (inside : greatest ∈ rows)
    (bound : ∀ id ∈ rows, id ≤ greatest) :
    ShowsMaximum rows (.ofList [(maximumAlias, .int greatest)]) :=
  .inr ⟨greatest, inside, bound, rfl⟩

theorem nextBatchId_single (table : String) {greatest next : Int64}
    (valid : successor? greatest = some next) :
    nextBatchId table (some (.ofList [(maximumAlias, .int greatest)])) = .ok next := by
  have number : (Row.ofList [(maximumAlias, .int greatest)]).integer? maximumAlias =
      some greatest := rfl
  rw [nextBatchId_of_integer? table number, valid]

/-- While no one holds the lock, a client that has not begun can get the number after the maximum,
and its call leaves nothing behind that another client would see. -/
theorem Run.call (run : Run dialect schema table field rows trace shared) (client : Client)
    {row : Row} {id : Int64}
    (idle : shared.clients client = .calling (dialect.takeBatchId schema table field))
    (free : shared.locks (dialect.qualifiedName schema table) = none)
    (shown : ShowsMaximum shared.rows row)
    (next : nextBatchId (dialect.qualifiedName schema table) (some row) = .ok id) :
    Run dialect schema table field rows
      (trace ++ [.lock client, .work client, .work client, .read client, .work client,
        .unlock client])
      (shared.proceed client (.done (.ok id))) := by
  have alone : ∀ table' ∈ [dialect.qualifiedName schema table], shared.locks table' = none := by
    intro table' inside
    rw [List.mem_singleton.mp inside]
    exact free
  have locked := run.step (.lock idle alone)
  have reported := (locked.step (.report (Shared.clients_proceed ..))).step
    (.report (Shared.clients_proceed ..))
  have answers : ∀ query, Answers query shared.rows query (.ok (.row row .finished)) :=
    fun _ _ => ⟨row, .finished, rfl, shown⟩
  have read := reported.step (.read (Shared.clients_proceed ..) (answers _))
  have fetched := read.step (.fetch (Shared.clients_proceed ..))
  have released := fetched.step (.unlock (Shared.clients_proceed ..))
  simp only [Shared.proceed_proceed, Shared.release_proceed, Shared.release_acquire client alone,
    List.append_assoc, List.cons_append, List.nil_append] at released
  -- The lock is back, and what is left of the call is its result.
  change Run _ _ _ _ _ _ (shared.proceed client
    (Dialect.concludeLocked _ (nextBatchId _ (some row)) (.ok ()))) at released
  rw [next] at released
  exact released

end Alone

/-! ### Numbers of different clients -/

section Numbers

variable {Client : Type} [DecidableEq Client] {dialect : Dialect} {schema : Option String}
variable {table field : String} {rows : List Int64} {trace : List (Move Client)}
variable {shared : Shared Client}

/-- If there were no rows, all numbers are positive. -/
theorem Run.insertedIds_pos (run : Run dialect schema table field [] trace shared) :
    ∀ id ∈ insertedIds trace, 0 < id.toInt := by
  induction run with
  | start => exact nofun
  | step run step ih =>
    intro id inside
    rw [insertedIds_append] at inside
    rcases List.mem_append.mp inside with old | new
    · exact ih id old
    -- Only an insertion adds a number.
    cases step with
    | insert calling =>
      cases List.mem_singleton.mp new
      -- The client has read its number, which follows those inserted before.
      obtain ⟨before, after, row, rfl, shown, same⟩ :=
        run.readIn_of_returned (congrArg Progress.returned? calling)
      rcases follows_of_nextBatchId shown same.symm with ⟨_, one⟩ | ⟨last, within, _, next⟩
      · omega
      · have earlier : last ∈ insertedIds before := by simpa [rowsAfter] using within
        have positive := ih last (by
          rw [insertedIds_append]
          exact List.mem_append_left _ earlier)
        omega
    | report _ => cases new
    | fetch _ => cases new
    | lock _ _ => cases new
    | unlock _ => cases new
    | read _ _ => cases new

/-- Of two readings in one run, the later one is followed by a number that is as great at least. -/
theorem Run.follows_later {before between after : List (Move Client)} {client : Client}
    {first second : Int64}
    (run : Run dialect schema table field rows (before ++ .read client :: (between ++ after))
      shared)
    (early : Follows (rowsAfter rows before) first)
    (late : Follows (rowsAfter rows (before ++ .read client :: between)) second) :
    first ≤ second ∧ (first = second ↔ ∀ id ∈ insertedIds between, id < first) := by
  have positive : rowsAfter rows before = [] →
      ∀ id ∈ (insertedIds between).reverse, 0 < id.toInt := by
    intro empty id inside
    -- A table that is empty before the first reading has been empty from the start.
    rw [(List.append_eq_nil_iff.mp empty).2] at run
    refine run.insertedIds_pos id ?_
    rw [insertedIds_append]
    refine List.mem_append_right _ ?_
    change id ∈ insertedIds (between ++ after)
    rw [insertedIds_append]
    exact List.mem_append_left _ (List.mem_reverse.mp inside)
  rw [rowsAfter_append] at late
  have later : first ≤ second ∧
      (first = second ↔ ∀ id ∈ (insertedIds between).reverse, id < first) :=
    early.later late positive
  simpa only [List.mem_reverse] using later

omit [DecidableEq Client] in
/-- Of two different moves in one trace, one comes before the other. -/
theorem earlier_or_later {first second : Move Client}
    {before after before' after' : List (Move Client)} (differ : first ≠ second)
    (same : before ++ first :: after = before' ++ second :: after') :
    (∃ between, before' = before ++ first :: between ∧ after = between ++ second :: after') ∨
      ∃ between, before = before' ++ second :: between ∧ after' = between ++ first :: after := by
  rcases List.append_eq_append_iff.mp same with ⟨gap, front, back⟩ | ⟨gap, front, back⟩
  · cases gap with
    | nil => exact absurd (List.cons.inj back).1 differ
    | cons _ between =>
      obtain ⟨rfl, rest⟩ := List.cons.inj back
      exact .inl ⟨between, front, rest⟩
  · cases gap with
    | nil => exact absurd (List.cons.inj back).1.symm differ
    | cons _ between =>
      obtain ⟨rfl, rest⟩ := List.cons.inj back
      exact .inr ⟨between, front, rest⟩

/-- Two clients that have got a number have read one after the other, the lock being handed over in
between. The later one has not got a smaller number, and it has got the same one exactly if every
number inserted between the two readings is less. -/
theorem Run.ids_eq_iff {i j : Client} {a b : Int64}
    (run : Run dialect schema table field rows trace shared) (differ : i ≠ j)
    (first : (shared.clients i).returned? = some a)
    (second : (shared.clients j).returned? = some b) :
    ∃ before between after,
      trace = before ++ .read i :: (between ++ .read j :: after) ∧ HandedOver between i j ∧
        a ≤ b ∧ (a = b ↔ ∀ id ∈ insertedIds between, id < a) ∨
      trace = before ++ .read j :: (between ++ .read i :: after) ∧ HandedOver between j i ∧
        b ≤ a ∧ (a = b ↔ ∀ id ∈ insertedIds between, id < b) := by
  obtain ⟨before, after, row, whole, shown, same⟩ := run.readIn_of_returned first
  obtain ⟨before', after', row', whole', shown', same'⟩ := run.readIn_of_returned second
  have follows := follows_of_nextBatchId shown same.symm
  have follows' := follows_of_nextBatchId shown' same'.symm
  -- Both have read, and one of the two readings is the earlier one.
  have apart : Move.read i ≠ Move.read j := fun same => differ (Move.read.inj same)
  rcases earlier_or_later apart (whole.symm.trans whole') with
    ⟨between, rfl, rfl⟩ | ⟨between, rfl, rfl⟩
  · subst whole
    exact ⟨before, between, after',
      .inl ⟨rfl, run.handedOver differ, run.follows_later follows follows'⟩⟩
  · subst whole'
    obtain ⟨order, same⟩ := run.follows_later follows' follows
    rw [eq_comm] at same
    exact ⟨before', between, after, .inr ⟨rfl, run.handedOver differ.symm, order, same⟩⟩

end Numbers

/-- A client that reads after the other one has inserted its row gets the next number. -/
theorem ids_eq_iff_after_insert :
    let profile := (Vendor.sqlServer.configure .empty).result
    ∃ (trace : List (Move Bool)) (shared : Shared Bool),
      Run profile.dialect (some "dbo") "batch" "ID_BATCH" [] trace shared ∧ false ≠ true ∧
      (shared.clients false).returned? = some 1 ∧ (shared.clients true).returned? = some 2 ∧
      ∃ before between after,
        trace = before ++ .read false :: (between ++ .read true :: after) ∧
          HandedOver between false true ∧ (1 : Int64) ≤ 2 ∧
            ((1 : Int64) = 2 ↔ ∀ id ∈ insertedIds between, id < 1) ∨
        trace = before ++ .read true :: (between ++ .read false :: after) ∧
          HandedOver between true false ∧ (2 : Int64) ≤ 1 ∧
            ((1 : Int64) = 2 ↔ ∀ id ∈ insertedIds between, id < 2) := by
  intro profile
  have empty : ShowsMaximum [] (.ofList [(maximumAlias, .null)]) := .inl ⟨rfl, rfl⟩
  have one := nextBatchId_of_null (profile.qualifiedName (some "dbo") "batch")
    (show Row.get? (.ofList [(maximumAlias, .null)]) maximumAlias = some .null from rfl)
  have begun : Run profile.dialect (some "dbo") "batch" "ID_BATCH" []
      ([] : List (Move Bool)) _ := .start
  have first := begun.call false rfl rfl empty one
  have inserted := first.step (.insert (Shared.clients_proceed ..))
  have shown : ShowsMaximum [1] (.ofList [(maximumAlias, .int 1)]) :=
    showsMaximum_single List.mem_cons_self (by simp)
  have second := inserted.call true rfl rfl shown (nextBatchId_single _ rfl)
  exact ⟨_, _, second, by decide, rfl, rfl, second.ids_eq_iff (by decide) rfl rfl⟩

/-- Two clients that read one after the other get the same number, since neither has inserted its
row before the other one reads. -/
theorem not_distinct_before_insert :
    ¬∀ (trace : List (Move Bool)) (shared : Shared Bool) (i j : Bool) (a b : Int64),
      Run (Vendor.sqlServer.configure .empty).result.dialect (some "dbo") "batch" "ID_BATCH" [41]
        trace shared →
      i ≠ j → (shared.clients i).returned? = some a → (shared.clients j).returned? = some b →
      a ≠ b := by
  intro distinct
  have shown : ShowsMaximum [41] (.ofList [(maximumAlias, .int 41)]) :=
    showsMaximum_single List.mem_cons_self (by simp)
  have begun : Run (Vendor.sqlServer.configure .empty).result.dialect (some "dbo") "batch"
      "ID_BATCH" [41] ([] : List (Move Bool)) _ := .start
  have first := begun.call false rfl rfl shown (nextBatchId_single _ rfl)
  -- The lock is free again, and the table is what it was: no row carries 42 yet.
  have second := first.call true rfl rfl shown (nextBatchId_single _ rfl)
  exact distinct _ _ false true 42 42 second (by decide) rfl rfl rfl

end VendorSql.Numbering
