import VendorSql.Introspection
import Mathlib.Data.List.Forall2

/-!
# Locks over a session

A session holds any number of operations one after another with one connection, which may answer
and fail in any way. Its calls fall into one block for each operation. Taking a batch number locks
one table, reads, and asks for the lock back once, whatever happened in between; checking an index
never touches a lock and reads its answer to the end. So no lock outlives its operation, and a
maximum is only read while its table is locked.

A call stands in a block with what the connection answered. In particular the reads of a block are
what the answer to its query holds, neither fewer nor more.
-/
namespace VendorSql

/-! ### Sessions -/

/-- An operation on a live database with its arguments. -/
inductive Request where
  | indexExists (schema : Option String) (table : String) (fields : List String)
  | takeBatchId (schema : Option String) (table field : String)
  deriving Repr, DecidableEq

namespace Request

def dialogue (dialect : Dialect) : Request → Dialogue Unit
  | indexExists schema table fields =>
    (dialect.indexExists schema table fields).bind fun _ => .done ()
  | takeBatchId schema table field =>
    (dialect.takeBatchId schema table field).bind fun _ => .done ()

end Request

def session (dialect : Dialect) : List Request → Dialogue Unit
  | [] => .done ()
  | request :: rest => (request.dialogue dialect).bind fun _ => session dialect rest

section Blocks

variable {σ : Type} (dialect : Dialect) (gateway : Gateway σ)

/-- The calls of each operation, made in the state in which the operations before it left the
connection and what was open on it. -/
def blocks : List Request → σ → (opened : Cursor := .finished) → List (List Call)
  | [], _, _ => []
  | request :: rest, state, opened =>
    let held := (request.dialogue dialect).run gateway state opened
    held.calls :: blocks rest held.state held.opened

/-- The calls of a session are those of its operations, block by block. -/
theorem calls_session (requests : List Request) (state : σ) (opened : Cursor) :
    ((session dialect requests).run gateway state opened).calls =
      (blocks dialect gateway requests state opened).flatten := by
  induction requests generalizing state opened with
  | nil => rfl
  | cons request rest ih =>
    rw [session, Dialogue.run_bind, blocks, List.flatten_cons]
    simp only [ih]

end Blocks

/-! ### The shape of a block -/

/-- What reading to the end brings: every row, and then the end or the failure. -/
def Cursor.toEnd : Cursor → List (Except GatewayError (Option Row))
  | row first rest => .ok (some first) :: rest.toEnd
  | finished => [.ok none]
  | failed error => [.error error]

/-- The calls that take a batch number from a table: a refused lock, or a granted one, the query,
the first read of its answer if there is one, and one release of the same tables. -/
inductive BatchCalls (tables : List String) (sql : String) : List Call → Prop
  | refused (error : GatewayError) : BatchCalls tables sql [.lock tables (.error error)]
  | unanswered (error : GatewayError) (released : Except GatewayError Unit) :
    BatchCalls tables sql
      [.lock tables (.ok ()), .execute sql (.error error), .unlock tables released]
  | answered (cursor : Cursor) (released : Except GatewayError Unit) :
    BatchCalls tables sql
      [.lock tables (.ok ()), .execute sql (.ok cursor), .fetch cursor.next.1,
        .unlock tables released]

/-- The calls that check an index: none without a query; otherwise the query and, if it is answered,
all reads up to the one that brings the end or the failure. -/
inductive IndexCalls : Option String → List Call → Prop
  | unsupported : IndexCalls none []
  | unanswered (sql : String) (error : GatewayError) :
    IndexCalls (some sql) [.execute sql (.error error)]
  | answered (sql : String) (cursor : Cursor) :
    IndexCalls (some sql) (.execute sql (.ok cursor) :: cursor.toEnd.map .fetch)

namespace Request

/-- The calls an operation may make. -/
def Makes (dialect : Dialect) : Request → List Call → Prop
  | indexExists schema table _ => IndexCalls (dialect.indexColumnsQuery? schema table)
  | takeBatchId schema table field =>
    let name := dialect.qualifiedName schema table
    BatchCalls [name] (dialect.maximumQuery name (dialect.quoteName field))

end Request

section Shapes

variable {σ : Type} (dialect : Dialect) (gateway : Gateway σ)

/-- The reads of an answer that is open are the answer, read to its end. -/
theorem calls_readIndexColumns (table : String) (seen : Coverage) (cursor : Cursor) (state : σ) :
    ((Dialect.readIndexColumns table seen cursor).run gateway state cursor).calls =
      cursor.toEnd.map .fetch := by
  -- One read for each row, and then one more.
  induction cursor generalizing seen with
  | row row rest ih => exact congrArg (List.cons _) (ih (seen.note row))
  | finished => rfl
  | failed error => rfl

theorem indexCalls_indexExists (schema : Option String) (table : String) (fields : List String)
    (state : σ) (opened : Cursor) :
    IndexCalls (dialect.indexColumnsQuery? schema table)
      ((dialect.indexExists schema table fields).run gateway state opened).calls := by
  unfold Dialect.indexExists
  cases dialect.indexColumnsQuery? schema table with
  | none => exact .unsupported
  | some sql =>
    simp only [Dialogue.run]
    cases answer : (gateway.execute sql state).1 with
    | error error => exact .unanswered sql error
    | ok cursor =>
      simp only [calls_readIndexColumns]
      exact .answered sql cursor

/-- Reading a number puts the query and, if it is answered, reads once. -/
theorem calls_readNextBatchId (table field : String) (state : σ) (opened : Cursor) :
    let sql := dialect.maximumQuery table (dialect.quoteName field)
    ((dialect.readNextBatchId table field).run gateway state opened).calls =
      match (gateway.execute sql state).1 with
      | .error error => [.execute sql (.error error)]
      | .ok cursor => [.execute sql (.ok cursor), .fetch cursor.next.1] := by
  simp only [Dialect.readNextBatchId, Dialogue.run]
  rcases (gateway.execute (dialect.maximumQuery table (dialect.quoteName field)) state).1 with
    error | (⟨row, rest⟩ | _ | error) <;> rfl

/-- Putting the outcome together calls nothing any more. -/
theorem calls_concludeLocked (table : String) (result : Except Error Int64)
    (released : Except GatewayError Unit) (state : σ) (opened : Cursor) :
    ((Dialect.concludeLocked table result released).run gateway state opened).calls = [] := by
  cases result <;> cases released <;> rfl

theorem batchCalls_takeBatchId (schema : Option String) (table field : String) (state : σ)
    (opened : Cursor) :
    let name := dialect.qualifiedName schema table
    BatchCalls [name] (dialect.maximumQuery name (dialect.quoteName field))
      ((dialect.takeBatchId schema table field).run gateway state opened).calls := by
  intro name
  simp only [Dialect.takeBatchId, Dialogue.run]
  cases asked : (gateway.lock [name] state).1 with
  | error error => exact .refused error
  | ok _ =>
    simp only [Dialogue.run, Dialogue.run_bind, calls_concludeLocked, calls_readNextBatchId]
    -- The release stands after the reading, whichever way the reading went.
    split
    · exact .unanswered _ _
    · exact .answered _ _

/-- The calls of an operation have its shape, however the connection answers. -/
theorem makes_dialogue (request : Request) (state : σ) (opened : Cursor) :
    request.Makes dialect ((request.dialogue dialect).run gateway state opened).calls := by
  cases request with
  | indexExists schema table fields =>
    rw [Request.dialogue, Dialogue.run_bind]
    simp only [Dialogue.run, List.append_nil]
    exact indexCalls_indexExists dialect gateway schema table fields state opened
  | takeBatchId schema table field =>
    rw [Request.dialogue, Dialogue.run_bind]
    simp only [Dialogue.run, List.append_nil]
    exact batchCalls_takeBatchId dialect gateway schema table field state opened

theorem makes_blocks (requests : List Request) (state : σ) (opened : Cursor) :
    List.Forall₂ (Request.Makes dialect) requests
      (blocks dialect gateway requests state opened) := by
  induction requests generalizing state opened with
  | nil => exact .nil
  | cons request rest ih =>
    exact .cons (makes_dialogue dialect gateway request state opened) (ih _ _)

end Shapes

/-! ### What is held -/

namespace Call

def grants : Call → Bool
  | lock _ (.ok _) => true
  | _ => false

/-- Whether a call asks for a lock back. -/
def releases : Call → Bool
  | unlock _ _ => true
  | _ => false

def reads : Call → Bool
  | execute _ _ | fetch _ => true
  | _ => false

/-- The locks held after a call. A lock is asked back only once, so it counts as given back even if
that fails. -/
def hold (held : List (List String)) : Call → List (List String)
  | lock tables (.ok _) => tables :: held
  | unlock tables _ => held.erase tables
  | _ => held

theorem hold_of_reads {call : Call} (reading : call.reads = true) (held : List (List String)) :
    call.hold held = held := by
  cases call with
  | lock tables answer => cases reading
  | unlock tables answer => cases reading
  | execute sql answer => rfl
  | fetch answer => rfl

theorem length_hold_le (call : Call) (held : List (List String)) :
    (call.hold held).length ≤ held.length + if call.grants then 1 else 0 := by
  cases call with
  | lock tables answer => cases answer <;> simp [hold, grants]
  | unlock tables answer => exact List.length_erase_le
  | execute sql answer => exact Nat.le_refl _
  | fetch answer => exact Nat.le_refl _

end Call

/-- The locks held after several calls, the latest first. -/
def heldAfter (held : List (List String)) (calls : List Call) : List (List String) :=
  calls.foldl Call.hold held

theorem heldAfter_append (held : List (List String)) (first second : List Call) :
    heldAfter held (first ++ second) = heldAfter (heldAfter held first) second :=
  List.foldl_append

theorem heldAfter_of_reads {calls : List Call} (reading : ∀ call ∈ calls, call.reads = true)
    (held : List (List String)) : heldAfter held calls = held := by
  induction calls generalizing held with
  | nil => rfl
  | cons call rest ih =>
    have first := Call.hold_of_reads (reading call List.mem_cons_self) held
    rw [heldAfter, List.foldl_cons, first]
    exact ih (fun call inside => reading call (List.mem_cons_of_mem _ inside)) held

theorem length_heldAfter_le (held : List (List String)) (calls : List Call) :
    (heldAfter held calls).length ≤ held.length + calls.countP Call.grants := by
  induction calls generalizing held with
  | nil => exact Nat.le_refl _
  | cons call rest ih =>
    have first := call.length_hold_le held
    have later := ih (call.hold held)
    rw [heldAfter, List.foldl_cons, List.countP_cons]
    rw [heldAfter] at later
    omega

/-! ### One operation -/

/-- A lock that is granted is released at the end, and in between there is only reading. -/
theorem BatchCalls.bracketed {tables : List String} {sql : String} {calls : List Call}
    (made : BatchCalls tables sql calls) :
    (∃ error, calls = [.lock tables (.error error)]) ∨ ∃ reading released,
      (∀ call ∈ reading, call.reads = true) ∧
        calls = .lock tables (.ok ()) :: (reading ++ [.unlock tables released]) := by
  cases made with
  | refused error => exact .inl ⟨error, rfl⟩
  | unanswered error released => exact .inr ⟨[_], released, by simp [Call.reads], rfl⟩
  | answered cursor released => exact .inr ⟨[_, _], released, by simp [Call.reads], rfl⟩

theorem IndexCalls.reads {sql : Option String} {calls : List Call} (made : IndexCalls sql calls) :
    ∀ call ∈ calls, call.reads = true := by
  cases made with
  | unsupported => simp
  | unanswered sql error => simp [Call.reads]
  | answered sql cursor => simp [Call.reads]

theorem countP_of_reads {calls : List Call} (reading : ∀ call ∈ calls, call.reads = true) :
    calls.countP Call.grants = 0 ∧ calls.countP Call.releases = 0 := by
  simp only [List.countP_eq_zero]
  constructor
  · intro call inside granted
    have only := reading call inside
    cases call <;> simp [Call.reads, Call.grants] at only granted
  · intro call inside released
    have only := reading call inside
    cases call <;> simp [Call.reads, Call.releases] at only released

namespace Request

variable {dialect : Dialect} {request : Request} {calls : List Call}

/-- An operation leaves no lock behind. -/
theorem Makes.heldAfter_eq (made : request.Makes dialect calls) (held : List (List String)) :
    heldAfter held calls = held := by
  cases request with
  | indexExists schema table fields => exact heldAfter_of_reads (IndexCalls.reads made) held
  | takeBatchId schema table field =>
    rcases BatchCalls.bracketed made with ⟨error, rfl⟩ | ⟨reading, released, only, rfl⟩
    · rfl
    -- Reading changes nothing, so the release meets the lock it is for.
    · change heldAfter (_ :: held) (reading ++ _) = held
      rw [heldAfter_append, heldAfter_of_reads only]
      exact List.erase_cons_head _ held

/-- An operation asks for every lock back that it was granted, and is granted at most one. -/
theorem Makes.countP_eq (made : request.Makes dialect calls) :
    calls.countP Call.grants = calls.countP Call.releases ∧ calls.countP Call.grants ≤ 1 := by
  cases request with
  | indexExists schema table fields =>
    obtain ⟨grants, releases⟩ := countP_of_reads (IndexCalls.reads made)
    omega
  | takeBatchId schema table field =>
    rcases BatchCalls.bracketed made with ⟨error, rfl⟩ | ⟨reading, released, only, rfl⟩
    · exact ⟨rfl, Nat.zero_le 1⟩
    · obtain ⟨grants, releases⟩ := countP_of_reads only
      simp only [List.countP_cons, List.countP_append, grants, releases]
      exact ⟨rfl, Nat.le_refl 1⟩

/-- Whenever a maximum is read, exactly its table is locked. -/
theorem Makes.heldAfter_reading {schema : Option String} {table field : String}
    {before after : List Call} {call : Call} (reads : call.reads = true)
    (made : (takeBatchId schema table field).Makes dialect (before ++ call :: after)) :
    heldAfter [] before = [[dialect.qualifiedName schema table]] := by
  rcases BatchCalls.bracketed made with ⟨error, refused⟩ | ⟨reading, released, only, bracketed⟩
  · cases before with
    | nil =>
      cases refused
      cases reads
    | cons first before => simp at refused
  · cases before with
    | nil =>
      cases bracketed
      cases reads
    | cons first before =>
      rw [List.cons_append] at bracketed
      obtain ⟨rfl, inner⟩ := List.cons.inj bracketed
      -- What was called between the lock and the read is part of the reading.
      have within : before <+: reading := by
        have shorter := congrArg List.length inner
        simp only [List.length_append, List.length_cons, List.length_nil] at shorter
        exact List.prefix_of_prefix_length_le ⟨_, inner⟩ (List.prefix_append _ _) (by omega)
      exact heldAfter_of_reads (fun call inside => only call (within.subset inside)) _

end Request

/-! ### A whole session -/

section Session

variable {dialect : Dialect} {requests : List Request} {made : List (List Call)}

/-- A session leaves held what was held before it. -/
theorem heldAfter_flatten (makes : List.Forall₂ (Request.Makes dialect) requests made)
    (held : List (List String)) : heldAfter held made.flatten = held := by
  induction makes with
  | nil => rfl
  | cons block _ ih => rw [List.flatten_cons, heldAfter_append, block.heldAfter_eq, ih]

theorem countP_flatten (makes : List.Forall₂ (Request.Makes dialect) requests made) :
    made.flatten.countP Call.grants = made.flatten.countP Call.releases := by
  induction makes with
  | nil => rfl
  | cons block _ ih =>
    rw [List.flatten_cons, List.countP_append, List.countP_append, block.countP_eq.1, ih]

/-- At no time is more than one lock held. -/
theorem length_heldAfter_prefix_le
    (makes : List.Forall₂ (Request.Makes dialect) requests made) {before : List Call}
    (front : before <+: made.flatten) : (heldAfter [] before).length ≤ 1 := by
  induction makes generalizing before with
  | nil =>
    rw [List.prefix_nil.mp front]
    exact Nat.zero_le 1
  | @cons request calls requests made block rest ih =>
    -- Either the session is still in its first operation, or that one has left nothing held.
    rcases List.prefix_or_prefix_of_prefix front (List.prefix_append calls _) with
      inside | ⟨later, rfl⟩
    · have bound := length_heldAfter_le [] before
      have fewer : before.countP Call.grants ≤ calls.countP Call.grants := inside.sublist.countP_le
      have single := block.countP_eq.2
      rw [List.length_nil] at bound
      omega
    · rw [List.flatten_cons, List.prefix_append_right_inj] at front
      rw [heldAfter_append, block.heldAfter_eq]
      exact ih front

end Session

/-- The order in which a session locks, reads and releases: `made` are the calls of each of the
requests. -/
structure LockDiscipline (dialect : Dialect) (requests : List Request)
    (made : List (List Call)) : Prop where
  /-- Every operation makes the calls of its shape. -/
  shaped : List.Forall₂ (Request.Makes dialect) requests made
  /-- After every operation as many locks have been asked back as were granted. -/
  balanced : ∀ count, (made.take count).flatten.countP Call.grants =
    (made.take count).flatten.countP Call.releases
  /-- At most one lock is held at a time. -/
  exclusive : ∀ before, before <+: made.flatten → (heldAfter [] before).length ≤ 1
  /-- A maximum is read while its table is locked and nothing else is. -/
  locked : ∀ position schema table field before call after,
    requests[position]? = some (.takeBatchId schema table field) →
    made[position]? = some (before ++ call :: after) → call.reads = true →
    heldAfter [] ((made.take position).flatten ++ before) =
      [[dialect.qualifiedName schema table]]

/-- Every session keeps the discipline, whatever is asked for and however the connection answers. -/
theorem lockDiscipline_session {σ : Type} (dialect : Dialect) (gateway : Gateway σ)
    (requests : List Request) (state : σ) :
    let made := blocks dialect gateway requests state
    ((session dialect requests).run gateway state).calls = made.flatten ∧
      LockDiscipline dialect requests made := by
  intro made
  have shaped : List.Forall₂ (Request.Makes dialect) requests made :=
    makes_blocks dialect gateway requests state .finished
  refine ⟨calls_session dialect gateway requests state .finished, shaped, ?_, ?_, ?_⟩
  · intro count
    exact countP_flatten (List.forall₂_take count shaped)
  · intro before front
    exact length_heldAfter_prefix_le shaped front
  · intro position schema table field before call after asked block reads
    rw [heldAfter_append, heldAfter_flatten (List.forall₂_take position shaped)]
    -- The operations before hold nothing any more, so only the calls of this one count.
    obtain ⟨inRequests, asked⟩ := List.getElem?_eq_some_iff.mp asked
    obtain ⟨inMade, block⟩ := List.getElem?_eq_some_iff.mp block
    have makes := shaped.get inRequests inMade
    rw [List.get_eq_getElem, List.get_eq_getElem, asked, block] at makes
    exact makes.heldAfter_reading reads

end VendorSql
