import VendorSql.Error
import VendorSql.Event
import VendorSql.Row

/-!
# Dialogues with a connection

An operation on a live database is a dialogue: it asks for locks, queries and rows, and what it does
next depends on the answers. A dialogue is a tree with a branch for every answer, so it can be held
with any connection, and what it says can be examined without one. A connection is any way to answer
that keeps a state; holding the dialogue with it yields the result, the calls with their answers and
the events that were reported.

The answer to a query is read row by row until it ends or the connection fails. A cursor is what
its successive reads bring to light, so a dialogue that has a cursor knows what its reads will
bring; what they did bring is taken from the cursor that is open on the connection.
-/
namespace VendorSql

/-! ### Cursors -/

/-- The rows of an answer that are still to be read, and how the answer ends. -/
inductive Cursor where
  | row (row : Row) (rest : Cursor)
  | finished
  | failed (error : GatewayError)
  deriving Repr, DecidableEq

namespace Cursor

/-- The cursor over rows that are all there, or that are followed by a failure. -/
def ofRows (rows : List Row) (ending : Option GatewayError := none) : Cursor :=
  rows.foldr .row (match ending with
    | none => .finished
    | some error => .failed error)

/-- One read: the next row, nothing at the end, or the failure; and what is left. -/
def next : Cursor → Except GatewayError (Option Row) × Cursor
  | .row first rest => (.ok (some first), rest)
  | .finished => (.ok none, .finished)
  | .failed error => (.error error, .failed error)

def reads : Nat → Cursor → List (Except GatewayError (Option Row))
  | 0, _ => []
  | count + 1, cursor => cursor.next.1 :: reads count cursor.next.2

end Cursor

/-! ### Dialogues -/

/-- What an operation asks of a connection, and how it goes on. -/
inductive Dialogue (α : Type) where
  | done (result : α)
  | report (event : Event) (next : Dialogue α)
  | lock (tables : List String) (next : Except GatewayError Unit → Dialogue α)
  | unlock (tables : List String) (next : Except GatewayError Unit → Dialogue α)
  | execute (sql : String) (next : Except GatewayError Cursor → Dialogue α)
  /-- One read of the answer that was opened last. -/
  | fetch (next : Dialogue α)

/-- A call that was made, and what the connection answered. -/
inductive Call where
  | lock (tables : List String) (answer : Except GatewayError Unit)
  | unlock (tables : List String) (answer : Except GatewayError Unit)
  | execute (sql : String) (answer : Except GatewayError Cursor)
  | fetch (answer : Except GatewayError (Option Row))
  deriving Repr

/-- A connection to a database with states of type `σ`. Locks are held on the tables named, until
they are released; releasing works after a failed query too. -/
structure Gateway (σ : Type) where
  lock : List String → σ → Except GatewayError Unit × σ
  unlock : List String → σ → Except GatewayError Unit × σ
  execute : String → σ → Except GatewayError Cursor × σ

/-- A dialogue that has been held. -/
structure Transcript (σ α : Type) where
  result : α
  state : σ
  /-- What is left of the answer that was opened last. -/
  opened : Cursor := .finished
  calls : List Call := []
  events : List Event := []

namespace Dialogue

variable {α β σ : Type}

def bind : Dialogue α → (α → Dialogue β) → Dialogue β
  | done result, next => next result
  | report event rest, next => report event (rest.bind next)
  | lock tables rest, next => lock tables fun answer => (rest answer).bind next
  | unlock tables rest, next => unlock tables fun answer => (rest answer).bind next
  | execute sql rest, next => execute sql fun answer => (rest answer).bind next
  | fetch rest, next => fetch (rest.bind next)

instance : Monad Dialogue where
  pure := done
  bind := bind

/-- Holds a dialogue with a connection, on which the answer `opened` is being read. A query that is
answered opens its answer, and a read brings what is next in the answer that is open. -/
def run (gateway : Gateway σ) : Dialogue α → σ → (opened : Cursor := .finished) → Transcript σ α
  | done result, state, opened => { result, state, opened }
  | report event next, state, opened =>
    let rest := run gateway next state opened
    { rest with events := event :: rest.events }
  | lock tables next, state, opened =>
    let (answer, state) := gateway.lock tables state
    let rest := run gateway (next answer) state opened
    { rest with calls := .lock tables answer :: rest.calls }
  | unlock tables next, state, opened =>
    let (answer, state) := gateway.unlock tables state
    let rest := run gateway (next answer) state opened
    { rest with calls := .unlock tables answer :: rest.calls }
  | execute sql next, state, opened =>
    let (answer, state) := gateway.execute sql state
    let rest := run gateway (next answer) state (match answer with
      | .ok cursor => cursor
      | .error _ => opened)
    { rest with calls := .execute sql answer :: rest.calls }
  | fetch next, state, opened =>
    let (answer, left) := opened.next
    let rest := run gateway next state left
    { rest with calls := .fetch answer :: rest.calls }

/-- A dialogue followed by another is held as the one and then, from the state it left and with
what is open then, the other. -/
theorem run_bind (gateway : Gateway σ) (dialogue : Dialogue α) (next : α → Dialogue β)
    (state : σ) (opened : Cursor) :
    (dialogue.bind next).run gateway state opened =
      let first := dialogue.run gateway state opened
      let second := (next first.result).run gateway first.state first.opened
      { second with
        calls := first.calls ++ second.calls
        events := first.events ++ second.events } := by
  induction dialogue generalizing state opened with
  | done result => rfl
  | report event rest ih => simp only [bind, run, ih, List.cons_append]
  | lock tables rest ih => simp only [bind, run, ih, List.cons_append]
  | unlock tables rest ih => simp only [bind, run, ih, List.cons_append]
  | execute sql rest ih => simp only [bind, run, ih, List.cons_append]
  | fetch rest ih => simp only [bind, run, ih, List.cons_append]

end Dialogue

/-! ### Prepared answers -/

/-- Answers for each kind of call, each to be given once and in order. -/
structure Prepared where
  locks : List (Except GatewayError Unit) := []
  unlocks : List (Except GatewayError Unit) := []
  queries : List (Except GatewayError Cursor) := []

/-- The first of the prepared answers, or the usual one, and those that are left. -/
def Prepared.take {α : Type} (usual : α) : List α → α × List α
  | [] => (usual, [])
  | answer :: rest => (answer, rest)

/-- The connection that gives the prepared answers. When they are used up, locks are granted and
released, and queries return no rows. -/
def Gateway.prepared : Gateway Prepared where
  lock _ state :=
    let (answer, locks) := Prepared.take (.ok ()) state.locks
    (answer, { state with locks })
  unlock _ state :=
    let (answer, unlocks) := Prepared.take (.ok ()) state.unlocks
    (answer, { state with unlocks })
  execute _ state :=
    let (answer, queries) := Prepared.take (.ok .finished) state.queries
    (answer, { state with queries })

end VendorSql
