import VendorSql.Proofs.RegistryHistory
import VendorSql.Proofs.SilentPrograms

/-!
# Runs that alter a table

A command that alters a table settles its configuration, finds the profile, expands its paths and
reads file after file, and all this while it writes nothing. Only then does it write. So it succeeds
exactly if each of these steps does, and what it writes then is a function of what they came to; and
if one of them fails, nothing has been written. What is shown of the report does not have to follow
the steps again, and what is shown of the steps does not have to know the report.
-/
namespace VendorSql

open CommandLine

/-- What the inputs of a command that alters a table come to. -/
structure AlterInputs where
  config : Config
  vendor : Vendor
  paths : List String
  /-- The columns of each file, in the order of the paths. -/
  contents : List (List Column)

namespace AlterInputs

def profile (inputs : AlterInputs) : Profile :=
  (inputs.vendor.configure inputs.config.attributes).result

def table (inputs : AlterInputs) (request : AlterRequest) : String :=
  inputs.profile.qualifiedName request.schema request.table

def columns (inputs : AlterInputs) : List Column :=
  inputs.contents.flatten

def generate (parse : StatementParser) (inputs : AlterInputs) (request : AlterRequest) :
    Column → Generated :=
  request.alteration.generate inputs.profile (if request.verify then some parse else none)
    (inputs.table request) inputs.config.keys

/-- The statements of a run, in the order of the columns. -/
def statements (parse : StatementParser) (inputs : AlterInputs) (request : AlterRequest) :
    List Generated :=
  inputs.columns.map (inputs.generate parse request)

def report (parse : StatementParser) (inputs : AlterInputs) (globals : Globals)
    (request : AlterRequest) : Report :=
  .statements (inputs.config.outputFormat globals.format) globals.quiet (inputs.table request)
    (inputs.statements parse request)

/-- Whether a statement comes with a warning. -/
def flagged (parse : StatementParser) (inputs : AlterInputs) (request : AlterRequest) : Bool :=
  (inputs.statements parse request).any fun generated => generated.warnings ≠ []

/-- The inputs are what the files and the command line say they are. -/
structure Found (inputs : AlterInputs) (files : Files Id) (globals : Globals)
    (request : AlterRequest) (choice : Choice) : Prop where
  settled : ∃ loaded, (Execution.loadConfig files globals.config).result = .ok loaded ∧
    inputs.config = (loaded.chooseKeys request.keys).choose choice
  named : Vendor.ofName? (Text.trim inputs.config.vendorName) = some inputs.vendor
  expanded : (Execution.columnFiles files request.files).result = .ok inputs.paths
  present : inputs.paths ≠ []
  read : List.Forall₂ (fun path columns => ∃ text, files.read path = Except.ok text ∧
    ColumnFile.parse? text = some columns) inputs.paths inputs.contents

/-- Neither the format nor the wish for quiet has a part in what the inputs are. -/
theorem Found.with_output {inputs : AlterInputs} {files : Files Id} {globals : Globals}
    {request : AlterRequest} {choice : Choice} (found : inputs.Found files globals request choice)
    (format : Option Format) (quiet : Bool) :
    inputs.Found files { globals with format, quiet } request choice :=
  ⟨found.settled, found.named, found.expanded, found.present, found.read⟩

end AlterInputs

/-- Items that are related to something a function sends to the values. -/
theorem forall₂_exists_iff {α β γ : Type} {related : α → β → Prop} {f : β → γ} {items : List α}
    {values : List γ} :
    List.Forall₂ (fun item value => ∃ other, related item other ∧ f other = value) items values ↔
      ∃ others, List.Forall₂ related items others ∧ others.map f = values := by
  constructor
  · intro each
    induction each with
    | nil => exact ⟨[], .nil, rfl⟩
    | cons first _ ih =>
      obtain ⟨other, holds, rfl⟩ := first
      obtain ⟨others, rest, rfl⟩ := ih
      exact ⟨other :: others, .cons holds rest, rfl⟩
  · rintro ⟨others, each, rfl⟩
    induction each with
    | nil => exact .nil
    | cons first _ ih => exact .cons ⟨_, first, rfl⟩ ih

namespace Execution

/-! ### Steps that write nothing -/

section Steps

variable (files : Files Id)

theorem silent_readConfig (path : String) : (readConfig files path).Silent := by
  refine (Program.silent_access _).bind fun answer => ?_
  cases answer with
  | error cause => exact Program.silent_throw _
  | ok text =>
    dsimp only
    cases Config.parse? text with
    | none => exact Program.silent_throw _
    | some config => exact Program.silent_pure config

theorem silent_nearestConfig : (nearestConfig files).Silent := by
  refine (Program.silent_access _).bind fun answer => ?_
  cases answer with
  | error cause => exact Program.silent_throw _
  | ok directories => exact Program.silent_access _

theorem silent_loadConfig (path : Option String) : (loadConfig files path).Silent := by
  cases path with
  | some path => exact silent_readConfig files path
  | none =>
    refine (silent_nearestConfig files).bind fun nearest => ?_
    cases nearest with
    | none => exact Program.silent_pure _
    | some path => exact silent_readConfig files path

theorem silent_argumentFiles (argument : String) : (argumentFiles files argument).Silent := by
  unfold argumentFiles
  split
  · split
    · exact Program.silent_throw _
    · exact Program.silent_access _
  · exact Program.silent_pure _

theorem silent_columnFiles (arguments : List String) : (columnFiles files arguments).Silent :=
  (Program.silent_mapM (silent_argumentFiles files) arguments).bind fun _ => Program.silent_pure _

theorem silent_readColumns (path : String) : (readColumns files path).Silent := by
  refine (Program.silent_access _).bind fun answer => ?_
  cases answer with
  | error cause => exact Program.silent_throw _
  | ok text =>
    dsimp only
    cases ColumnFile.parse? text with
    | none => exact Program.silent_throw _
    | some columns => exact Program.silent_pure columns

/-- Not even the statements of a file are written while other files are to be read. -/
theorem silent_fileStatements (generate : Column → Generated) (path : String) :
    (fileStatements files generate path).Silent :=
  (silent_readColumns files path).bind fun _ => Program.silent_pure _

end Steps

/-! ### What the steps come to -/

/-- The command line knows the built-in vendors and no others. -/
theorem profileOf_eq_ok_iff (config : Config) (profile : Profile) :
    profileOf config = .ok profile ↔
      ∃ vendor, Vendor.ofName? (Text.trim config.vendorName) = some vendor ∧
        profile = (vendor.configure config.attributes).result := by
  have leads (constructor : Constructor) :
      Registry.builtin.lookup? config.vendorName = some constructor ↔
        ∃ vendor, Vendor.ofName? (Text.trim config.vendorName) = some vendor ∧
          constructor = vendor.configure := by
    -- The built-in registry is the one that its history leads to.
    have same : Registry.builtin = Registry.after Registry.builtinHistory := rfl
    rw [← Registry.resolves_builtinHistory_iff, same, Registry.lookup?_after_iff]
  unfold profileOf Registry.create
  cases found : Registry.builtin.lookup? config.vendorName with
  | none =>
    simp only [found, reduceCtorEq, false_iff] at leads ⊢
    rintro ⟨vendor, named, -⟩
    exact leads _ ⟨vendor, named, rfl⟩
  | some constructor =>
    obtain ⟨vendor, named, rfl⟩ := (leads constructor).mp found
    simp [named, eq_comm]

theorem result_readColumns_eq_ok_iff (files : Files Id) (path : String) (columns : List Column) :
    (readColumns files path).result = .ok columns ↔
      ∃ text, files.read path = Except.ok text ∧ ColumnFile.parse? text = some columns := by
  refine (Program.result_bind_eq_ok_iff (Program.silent_access _)).trans ⟨?_, ?_⟩
  · rintro ⟨outcome, read, done⟩
    have answered : files.read path = outcome := Except.ok.inj read
    cases outcome with
    | error cause => cases done
    | ok text =>
      cases parsed : ColumnFile.parse? text with
      | none =>
        simp only [parsed] at done
        cases done
      | some found =>
        simp only [parsed] at done
        cases done
        exact ⟨text, answered, parsed⟩
  · rintro ⟨text, answered, parsed⟩
    refine ⟨.ok text, congrArg Except.ok answered, ?_⟩
    simp only [parsed]
    rfl

theorem result_fileStatements_eq_ok_iff (files : Files Id) (generate : Column → Generated)
    (path : String) (statements : List Generated) :
    (fileStatements files generate path).result = .ok statements ↔
      ∃ columns, (∃ text, files.read path = Except.ok text ∧
        ColumnFile.parse? text = some columns) ∧ columns.map generate = statements := by
  unfold fileStatements
  simp only [Program.result_bind_eq_ok_iff (silent_readColumns files path),
    Program.result_pure_eq_ok_iff, result_readColumns_eq_ok_iff]

/-- All files together: the columns of each can be read, and the statements are theirs. -/
theorem result_mapM_fileStatements_eq_ok_iff (files : Files Id) (generate : Column → Generated)
    (paths : List String) (statements : List (List Generated)) :
    Program.result (paths.mapM (fileStatements files generate)) = .ok statements ↔
      ∃ contents, List.Forall₂ (fun path columns => ∃ text, files.read path = Except.ok text ∧
        ColumnFile.parse? text = some columns) paths contents ∧
          contents.map (·.map generate) = statements := by
  rw [Program.result_mapM_eq_ok_iff (silent_fileStatements files generate)]
  simp only [result_fileStatements_eq_ok_iff]
  exact forall₂_exists_iff

/-! ### The command -/

section Command

variable (parse : StatementParser) {files : Files Id} {globals : Globals} {request : AlterRequest}
  {choice : Choice}

/-- A run whose inputs are found writes what they come to. -/
theorem run_alter_of_found {inputs : AlterInputs}
    (found : inputs.Found files globals request choice) :
    run parse files ⟨globals, .alter request choice⟩ =
      { ended := .ok (inputs.flagged parse request)
        report := inputs.report parse globals request } := by
  obtain ⟨loaded, configured, settled⟩ := found.settled
  have profiled : profileOf ((loaded.chooseKeys request.keys).choose choice) =
      .ok inputs.profile := by
    rw [← settled, profileOf_eq_ok_iff]
    exact ⟨inputs.vendor, found.named, rfl⟩
  have generated := (result_mapM_fileStatements_eq_ok_iff files (inputs.generate parse request)
    inputs.paths _).mpr ⟨inputs.contents, found.read, rfl⟩
  have whole : (inputs.contents.map (·.map (inputs.generate parse request))).flatten =
      inputs.statements parse request := List.map_flatten.symm
  -- Step by step, each with what it comes to.
  refine (Program.outcome_bind_of_ok (silent_loadConfig files globals.config) configured).trans ?_
  unfold answer alter
  refine (Program.outcome_bind_of_ok (Program.silent_except _)
    ((Program.result_except _).trans profiled)).trans ?_
  refine (Program.outcome_bind_of_ok (silent_columnFiles files request.files)
    found.expanded).trans ?_
  rw [if_neg found.present, ← settled]
  refine (Program.outcome_bind_of_ok (Program.silent_mapM (silent_fileStatements files _) _)
    generated).trans ?_
  have format : loaded.outputFormat globals.format =
      inputs.config.outputFormat globals.format := by
    rw [settled]
    rfl
  rw [whole, format]
  rfl

/-- Otherwise a step has failed, and nothing has been written by then. -/
theorem run_alter_of_not_found
    (missing : ¬∃ inputs : AlterInputs, inputs.Found files globals request choice) :
    (run parse files ⟨globals, .alter request choice⟩).FailedSilently := by
  refine Program.failedSilently_bind (silent_loadConfig files globals.config) ?_
  intro loaded configured
  unfold answer alter
  refine Program.failedSilently_bind (Program.silent_except _) ?_
  intro profile profiled
  rw [Program.result_except] at profiled
  obtain ⟨vendor, named, rfl⟩ := (profileOf_eq_ok_iff _ _).mp profiled
  refine Program.failedSilently_bind (silent_columnFiles files request.files) ?_
  intro paths expanded
  by_cases empty : paths = []
  · rw [if_pos empty]
    exact ⟨_, rfl⟩
  rw [if_neg empty]
  refine Program.failedSilently_bind (Program.silent_mapM (silent_fileStatements files _) _) ?_
  intro statements generated
  -- Here all steps have succeeded, so the inputs are found after all.
  obtain ⟨contents, read, -⟩ :=
    (result_mapM_fileStatements_eq_ok_iff files _ paths statements).mp generated
  exact absurd ⟨⟨_, vendor, paths, contents⟩, ⟨loaded, configured, rfl⟩, named, expanded, empty,
    read⟩ missing

/-- The run fails exactly if one of its inputs is not to be found. -/
theorem exitCode_alter_ne_failureCode_iff :
    exitCode (run parse files ⟨globals, .alter request choice⟩) ≠ failureCode ↔
      ∃ inputs : AlterInputs, inputs.Found files globals request choice := by
  constructor
  · intro succeeded
    by_contra missing
    obtain ⟨cause, failed⟩ := run_alter_of_not_found parse missing
    rw [failed] at succeeded
    exact succeeded rfl
  · rintro ⟨inputs, found⟩
    rw [run_alter_of_found parse found]
    cases inputs.flagged parse request <;> simp [exitCode, failureCode]

end Command

end Execution

end VendorSql
