import VendorSql.Execution
import Mathlib.Data.List.Forall2

/-!
# Programs that write nothing

A program that writes nothing comes to the same whatever has been written before it, so what it
comes to can be worked out from the start. Silence is kept by going on with a silent program and by
working through a list silently. So a long silent program comes to what its steps come to one after
another, and if one of them fails, what has been written stays as it was.
-/
namespace VendorSql

/-- The run has failed and left nothing behind. -/
def Outcome.FailedSilently (outcome : Outcome) : Prop :=
  ∃ cause, outcome = { ended := .error cause, report := [] }

namespace Program

variable {α β : Type}

/-- How a program ends that is run from the start. -/
def result (program : Program Id α) : Except CommandError α :=
  (StateT.run (ExceptT.run program) []).1

/-- A program that leaves what has been written as it is, and does not depend on it. -/
def Silent (program : Program Id α) : Prop :=
  ∀ written, StateT.run (ExceptT.run program) written = (result program, written)

theorem run_bind (step : Program Id α) (next : α → Program Id β) (written : Report) :
    StateT.run (ExceptT.run (step >>= next)) written =
      match StateT.run (ExceptT.run step) written with
      | (.ok value, more) => StateT.run (ExceptT.run (next value)) more
      | (.error cause, more) => (.error cause, more) := by
  rw [ExceptT.run_bind, StateT.run_bind]
  change (match StateT.run (ExceptT.run step) written with | (ended, more) => _) = _
  obtain ⟨ended, more⟩ := StateT.run (ExceptT.run step) written
  cases ended <;> rfl

theorem silent_pure (value : α) : Silent (pure value : Program Id α) := fun _ => rfl

theorem silent_throw (cause : CommandError) : Silent (throw cause : Program Id α) := fun _ => rfl

/-- Access to files writes nothing. -/
theorem silent_access (access : Id α) : Silent (liftM access : Program Id α) := fun _ => rfl

theorem silent_except (outcome : Except CommandError α) :
    Silent (liftM outcome : Program Id α) := fun _ => rfl

theorem result_except (outcome : Except CommandError α) :
    result (liftM outcome : Program Id α) = outcome := rfl

/-- After a silent step, a program ends as its rest does by itself. -/
theorem result_bind {step : Program Id α} {next : α → Program Id β} (quiet : Silent step) :
    result (step >>= next) = result step >>= fun value => result (next value) := by
  rw [result, run_bind, quiet]
  cases result step <;> rfl

theorem Silent.bind {step : Program Id α} {next : α → Program Id β} (quiet : Silent step)
    (later : ∀ value, Silent (next value)) : Silent (step >>= next) := by
  intro written
  rw [run_bind, quiet, result_bind quiet]
  cases result step with
  | error cause => rfl
  | ok value => exact later value written

theorem result_bind_eq_ok_iff {step : Program Id α} {next : α → Program Id β} (quiet : Silent step)
    {value : β} : result (step >>= next) = .ok value ↔
      ∃ first, result step = .ok first ∧ result (next first) = .ok value := by
  rw [result_bind quiet]
  cases result step with
  | error cause => simp [Bind.bind, Except.bind]
  | ok first => simp [Bind.bind, Except.bind]

theorem result_pure_eq_ok_iff {first value : α} :
    result (pure first : Program Id α) = .ok value ↔ first = value :=
  Except.ok.injEq first value ▸ Iff.rfl

section Lists

variable {step : α → Program Id β} (quiet : ∀ item, Silent (step item))
include quiet

theorem silent_mapM (items : List α) : Silent (items.mapM step) := by
  induction items with
  | nil => exact silent_pure []
  | cons item items ih =>
    rw [List.mapM_cons]
    exact (quiet item).bind fun _ => ih.bind fun _ => silent_pure _

/-- Working through a list succeeds if every step does, and collects what they yield in order. -/
theorem result_mapM_eq_ok_iff {items : List α} {values : List β} :
    result (items.mapM step) = .ok values ↔
      List.Forall₂ (fun item value => result (step item) = .ok value) items values := by
  induction items generalizing values with
  | nil => rw [List.mapM_nil, result_pure_eq_ok_iff, List.forall₂_nil_left_iff, eq_comm]
  | cons item items ih =>
    simp only [List.mapM_cons, result_bind_eq_ok_iff (quiet item),
      result_bind_eq_ok_iff (silent_mapM quiet items), result_pure_eq_ok_iff, ih,
      List.forall₂_cons_left_iff]
    constructor
    · rintro ⟨first, done, rest, others, rfl⟩
      exact ⟨first, rest, done, others, rfl⟩
    · rintro ⟨first, rest, done, others, rfl⟩
      exact ⟨first, done, rest, others, rfl⟩

end Lists

/-! ### Outcomes -/

section Outcomes

variable {step : Program Id α} {next : α → Program Id Bool} (quiet : Silent step)
include quiet

/-- A run that begins with a silent step goes on with nothing written, or ends so. -/
theorem outcome_bind : outcome (m := Id) (step >>= next) =
    match result step with
    | .ok value => outcome (m := Id) (next value)
    | .error cause => { ended := .error cause, report := [] } := by
  change (match StateT.run (ExceptT.run (step >>= next)) [] with
    | (ended, report) => ({ ended, report } : Outcome)) = _
  rw [run_bind, quiet]
  cases result step <;> rfl

/-- A silent step that succeeds is as good as its result. -/
theorem outcome_bind_of_ok {value : α} (done : result step = .ok value) :
    outcome (m := Id) (step >>= next) = outcome (m := Id) (next value) := by
  rw [outcome_bind quiet, done]

/-- A silent step that fails leaves nothing behind. So does one that succeeds if the rest fails
without a trace. -/
theorem failedSilently_bind
    (later : ∀ value, result step = .ok value → (outcome (m := Id) (next value)).FailedSilently) :
    (outcome (m := Id) (step >>= next)).FailedSilently := by
  rw [outcome_bind quiet]
  cases done : result step with
  | error cause => exact ⟨cause, rfl⟩
  | ok value => exact later value done

end Outcomes

end Program

end VendorSql
