import VendorSql.Files.Tree
import VendorSql.Proofs.AlterationRuns

/-!
# Alterations that fail

A run that alters a table fails as a whole. One obstacle is enough, wherever it stands: a
configuration that cannot be loaded, a vendor nobody knows, a pattern that is none, no file at all,
or one file of many without columns to read. Then the exit code tells of the failure and nothing is
printed, whatever could have been generated from the other files and in whatever format. And there
is no failure without an obstacle.
-/
namespace VendorSql

open CommandLine Execution

/-! ### Lists related item by item -/

section

variable {α β : Type} {related : α → β → Prop}

theorem exists_mem_of_forall₂ {items : List α} {others : List β}
    (each : List.Forall₂ related items others) {item : α} (member : item ∈ items) :
    ∃ other ∈ others, related item other := by
  induction each with
  | nil => cases member
  | cons first rest ih =>
    rcases List.mem_cons.mp member with rfl | later
    · exact ⟨_, List.mem_cons_self, first⟩
    · obtain ⟨other, present, holds⟩ := ih later
      exact ⟨other, List.mem_cons_of_mem _ present, holds⟩

/-- What exists for every item exists for all of them in a row. -/
theorem exists_forall₂ {items : List α} (each : ∀ item ∈ items, ∃ other, related item other) :
    ∃ others, List.Forall₂ related items others := by
  induction items with
  | nil => exact ⟨[], .nil⟩
  | cons item items ih =>
    obtain ⟨⟨first, holds⟩, later⟩ := List.forall_mem_cons.mp each
    obtain ⟨others, rest⟩ := ih later
    exact ⟨first :: others, .cons holds rest⟩

end

/-! ### What the arguments stand for -/

namespace Files

/-- The files that a path or a pattern on the command line stands for. -/
def Expands (files : Files Id) (argument : String) (found : List String) : Prop :=
  if Glob.isPattern argument then
    ∃ pattern, Glob.Pattern.ofText argument = .ok pattern ∧ found = Glob.expand files pattern
  else found = [argument]

/-- The file can be read, and what it says are columns. -/
def HoldsColumns (files : Files Id) (path : String) : Prop :=
  ∃ text columns, files.read path = Except.ok text ∧ ColumnFile.parse? text = some columns

theorem Expands.unique {files : Files Id} {argument : String} {found other : List String}
    (first : files.Expands argument found) (second : files.Expands argument other) :
    found = other := by
  unfold Expands at first second
  by_cases isPattern : Glob.isPattern argument = true
  · rw [if_pos isPattern] at first second
    obtain ⟨pattern, read, rfl⟩ := first
    obtain ⟨same, again, rfl⟩ := second
    cases read.symm.trans again
    rfl
  · rw [if_neg isPattern] at first second
    exact first.trans second.symm

/-- An argument stands for files unless it is meant as a pattern and is none. -/
theorem expands_or_invalid (files : Files Id) (argument : String) :
    (∃ found, files.Expands argument found) ∨
      Glob.isPattern argument = true ∧ ∃ cause, Glob.Pattern.ofText argument = .error cause := by
  unfold Expands
  by_cases isPattern : Glob.isPattern argument = true
  · simp only [if_pos isPattern]
    cases read : Glob.Pattern.ofText argument with
    | error cause => exact Or.inr ⟨isPattern, cause, rfl⟩
    | ok pattern => exact Or.inl ⟨_, pattern, rfl, rfl⟩
  · simp only [if_neg isPattern]
    exact Or.inl ⟨_, rfl⟩

theorem not_expands_of_invalid {files : Files Id} {argument : String} {cause : Glob.PatternError}
    (isPattern : Glob.isPattern argument = true)
    (invalid : Glob.Pattern.ofText argument = .error cause) (found : List String) :
    ¬ files.Expands argument found := by
  rw [Expands, if_pos isPattern]
  rintro ⟨pattern, read, -⟩
  rw [invalid] at read
  cases read

end Files

namespace Execution

/-- What one argument yields: a failure, the files of its pattern, or itself. -/
theorem result_argumentFiles_eq_ok_iff (files : Files Id) (argument : String)
    (found : List String) :
    (argumentFiles files argument).result = .ok found ↔ files.Expands argument found := by
  unfold argumentFiles Files.Expands
  by_cases isPattern : Glob.isPattern argument = true
  · rw [if_pos isPattern, if_pos isPattern]
    cases read : Glob.Pattern.ofText argument with
    | error cause => exact iff_of_false nofun nofun
    | ok pattern =>
      constructor
      · rintro ⟨⟩
        exact ⟨pattern, rfl, rfl⟩
      · rintro ⟨_, ⟨⟩, rfl⟩
        rfl
  · rw [if_neg isPattern, if_neg isPattern, Program.result_pure_eq_ok_iff, eq_comm]

/-- The paths of a run are the files that its arguments stand for, one argument after another. -/
theorem result_columnFiles_eq_ok_iff (files : Files Id) (arguments paths : List String) :
    (columnFiles files arguments).result = .ok paths ↔
      ∃ found, List.Forall₂ files.Expands arguments found ∧ found.flatten = paths := by
  have each := Program.silent_mapM (silent_argumentFiles files) arguments
  simp only [columnFiles, Program.result_bind_eq_ok_iff each, Program.result_pure_eq_ok_iff,
    Program.result_mapM_eq_ok_iff (silent_argumentFiles files), result_argumentFiles_eq_ok_iff]

/-- What keeps a run from altering a table. Neither the format nor the place among the other
arguments and files has a part in it. -/
inductive Obstacle (files : Files Id) (config : Option String) (request : AlterRequest)
    (choice : Choice) : Prop where
  | configuration (cause : CommandError)
      (unloaded : (loadConfig files config).result = .error cause)
  | vendor (loaded : Config) (configured : (loadConfig files config).result = .ok loaded)
      (unknown : Vendor.ofName? (Text.trim (loaded.choose choice).vendorName) = none)
  | pattern (argument : String) (given : argument ∈ request.files)
      (isPattern : Glob.isPattern argument = true) (cause : Glob.PatternError)
      (invalid : Glob.Pattern.ofText argument = .error cause)
  | nothing (empty : ∀ argument ∈ request.files, ∀ found, files.Expands argument found → found = [])
  | file (argument : String) (given : argument ∈ request.files) (found : List String)
      (expanded : files.Expands argument found) (path : String) (member : path ∈ found)
      (unread : ¬ files.HoldsColumns path)

variable {files : Files Id} {globals : Globals} {request : AlterRequest} {choice : Choice}

/-- One obstacle is enough: each takes away one of the steps that the inputs come from. -/
theorem Obstacle.not_found (obstacle : Obstacle files globals.config request choice)
    (inputs : AlterInputs) : ¬ inputs.Found files globals request choice := by
  intro found
  obtain ⟨loaded, configured, settled⟩ := found.settled
  obtain ⟨each, expanded, whole⟩ := (result_columnFiles_eq_ok_iff _ _ _).mp found.expanded
  -- The steps depend on their inputs only, so a step that failed has not succeeded as well.
  cases obstacle with
  | configuration cause unloaded =>
    cases unloaded.symm.trans configured
  | vendor other otherwise unknown =>
    cases otherwise.symm.trans configured
    have named := found.named
    rw [settled] at named
    cases unknown.symm.trans named
  | pattern argument given isPattern cause invalid =>
    obtain ⟨paths, -, stands⟩ := exists_mem_of_forall₂ expanded given
    exact Files.not_expands_of_invalid isPattern invalid paths stands
  | nothing empty =>
    apply found.present
    rw [← whole, List.flatten_eq_nil_iff]
    intro paths member
    obtain ⟨argument, given, stands⟩ := exists_mem_of_forall₂ expanded.flip member
    exact empty argument given paths stands
  | file argument given paths stands path member unread =>
    obtain ⟨others, present, again⟩ := exists_mem_of_forall₂ expanded given
    obtain rfl := stands.unique again
    have among : path ∈ inputs.paths := whole ▸ List.mem_flatten_of_mem present member
    obtain ⟨columns, -, text, read, parsed⟩ := exists_mem_of_forall₂ found.read among
    exact unread ⟨text, columns, read, parsed⟩

/-- Without an obstacle each step comes to something. -/
theorem exists_found_of_no_obstacle (free : ¬ Obstacle files globals.config request choice) :
    ∃ inputs : AlterInputs, inputs.Found files globals request choice := by
  cases configured : (loadConfig files globals.config).result with
  | error cause => exact absurd (.configuration cause configured) free
  | ok loaded =>
    cases named : Vendor.ofName? (Text.trim (loaded.choose choice).vendorName) with
    | none => exact absurd (.vendor loaded configured named) free
    | some vendor =>
      -- The arguments first, each by itself; then the files of all of them.
      have expands : ∀ argument ∈ request.files, ∃ found, files.Expands argument found := by
        intro argument given
        refine (files.expands_or_invalid argument).resolve_right ?_
        rintro ⟨isPattern, cause, invalid⟩
        exact free (.pattern argument given isPattern cause invalid)
      obtain ⟨each, expanded⟩ := exists_forall₂ expands
      have present : each.flatten ≠ [] := by
        intro empty
        refine free (.nothing fun argument given found stands => ?_)
        obtain ⟨same, member, again⟩ := exists_mem_of_forall₂ expanded given
        rw [stands.unique again]
        exact List.flatten_eq_nil_iff.mp empty same member
      have holds : ∀ path ∈ each.flatten, ∃ columns, ∃ text,
          files.read path = Except.ok text ∧ ColumnFile.parse? text = some columns := by
        intro path among
        obtain ⟨found, member, inside⟩ := List.mem_flatten.mp among
        obtain ⟨argument, given, stands⟩ := exists_mem_of_forall₂ expanded.flip member
        by_contra none
        refine free (.file argument given found stands path inside ?_)
        rintro ⟨text, columns, read, parsed⟩
        exact none ⟨columns, text, read, parsed⟩
      obtain ⟨contents, read⟩ := exists_forall₂ holds
      exact ⟨⟨(loaded.chooseKeys request.keys).choose choice, vendor, each.flatten, contents⟩,
        ⟨loaded, configured, rfl⟩, named,
        (result_columnFiles_eq_ok_iff _ _ _).mpr ⟨each, expanded, rfl⟩, present, read⟩

/-- A run fails with exit code 2 and without output exactly if there is an obstacle. -/
theorem alter_fails_silently_iff (parse : StatementParser) (files : Files Id) (globals : Globals)
    (request : AlterRequest) (choice : Choice) :
    let outcome := run parse files ⟨globals, .alter request choice⟩
    exitCode outcome = 2 ∧ output outcome = "" ↔
      Obstacle files globals.config request choice := by
  intro outcome
  constructor
  · -- The empty output says nothing here: the exit code alone tells of the failure.
    rintro ⟨failed, -⟩
    by_contra free
    have found := exists_found_of_no_obstacle free
    exact (exitCode_alter_ne_failureCode_iff parse).mpr found failed
  · intro obstacle
    have missing : ¬∃ inputs : AlterInputs, inputs.Found files globals request choice := by
      rintro ⟨inputs, found⟩
      exact obstacle.not_found inputs found
    obtain ⟨cause, failed⟩ : outcome.FailedSilently := run_alter_of_not_found parse missing
    rw [failed]
    exact ⟨rfl, rfl⟩

/-- The second of three files cannot be read. -/
example :
    let tree := FileTree.ofFiles [("a.toml", "[[columns]]\nname = \"a\"\ntype = \"date\"\n"),
      ("c.toml", "[[columns]]\nname = \"c\"\ntype = \"date\"\n")] ""
    let request : AlterRequest := { files := ["a.toml", "b.toml", "c.toml"], table := "t" }
    let outcome := run (fun _ _ => none) tree.files ⟨{}, .alter request {}⟩
    exitCode outcome = 2 ∧ output outcome = "" := by
  decide +kernel

end Execution

end VendorSql
