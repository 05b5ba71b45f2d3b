import VendorSql.Files.Tree
import VendorSql.Proofs.AlterationRuns
import VendorSql.Proofs.JsonReading
import VendorSql.Proofs.SpelledTypes

/-!
# What an alteration reports

A run that alters a table reports one statement for each column of its files, in their order, and a
warning with it if the statement had to write the type of a column that is of no known type. What is
printed says all of that: the lines for people end each statement with a semicolon, and from the
JSON a program reads back the table and the very statements. The exit code tells whether there was a
warning, in whatever format and however quiet.
-/
namespace VendorSql

open CommandLine Execution

/-! ### Reading the JSON -/

/-- The statement that an entry of the output describes. -/
def Generated.ofDatum? (datum : Datum) : Option Generated := do
  let entries ← datum.table?
  let column ← (← entries.lookup "column").text?
  let sql ← (← entries.lookup "sql").text?
  let warnings ← Datum.optional (·.list?) [] (entries.lookup "warnings")
  let warnings ← warnings.mapM Datum.text?
  some { column, sql, warnings }

/-- The table and the statements that an output in JSON is about. -/
def readStatements? (output : String) : Option (String × List Generated) := do
  let entries ← (← Json.parse? output).table?
  let table ← (← entries.lookup "table").text?
  let statements ← (← entries.lookup "statements").list?
  let statements ← statements.mapM Generated.ofDatum?
  some (table, statements)

/-- An entry of the output is read back as the statement it was written for. -/
theorem Generated.ofDatum?_generatedDatum (generated : Generated) :
    Generated.ofDatum? (Report.generatedDatum generated) = some generated := by
  obtain ⟨column, sql, warnings⟩ := generated
  -- No warnings are left out rather than written as an empty list.
  by_cases quiet : warnings = []
  · subst quiet
    rfl
  · have texts : (warnings.map Datum.text).mapM Datum.text? = some warnings :=
      mapM_written (fun text => (rfl : Datum.text? (.text text) = some text)) warnings
    simp [Generated.ofDatum?, Report.generatedDatum, quiet, Datum.table?, Datum.optional,
      Datum.list?, Datum.text?, texts, List.lookup_cons]

/-- Entries hold nothing but texts, so the reader of texts is enough for them. -/
theorem textual_generatedDatum (generated : Generated) :
    (Report.generatedDatum generated).Textual := by
  refine .table fun entry member => ?_
  rw [List.mem_append] at member
  rcases member with always | warned
  · simp only [List.mem_cons, List.not_mem_nil, or_false] at always
    rcases always with rfl | rfl <;> exact .text _
  · split at warned
    · cases warned
    · rw [List.mem_singleton] at warned
      subst warned
      refine .list fun item member => ?_
      obtain ⟨warning, -, rfl⟩ := List.mem_map.mp member
      exact .text warning

namespace Report

/-- What the lines for people, or the JSON for programs, say about the statements. -/
def Shows (format : Format) (table : String) (statements : List Generated) (output : String) :
    Prop :=
  match format with
  | .human => output = String.join (statements.map fun generated => generated.sql ++ ";\n")
  | .json => readStatements? output = some (table, statements)

@[simp] theorem output_append (first second : Report) :
    output (first ++ second) = output first ++ output second := by
  simp [output, String.join_append]

@[simp] theorem output_lines (texts : List String) :
    output (lines texts) = String.join (texts.map (· ++ "\n")) := by
  simp [output, lines, Function.comp_def]

/-- Nothing that stands beside the result is part of it. -/
theorem output_map_remark {α : Type} (text : α → String) (items : List α) :
    output (items.map fun item => remark (text item)) = "" := by
  induction items with
  | nil => rfl
  | cons item items ih => exact ih

/-- Warnings leave the result as it would be without them. -/
theorem output_generatedLines (generated : Generated) :
    output (generatedLines generated) = generated.sql ++ ";\n" := by
  have warned : output (generated.warnings.map fun warning =>
      remark (colored "33" "warning" ++ ": " ++ warning)) = "" := output_map_remark _ _
  rw [generatedLines, output_append, warned]
  simp [String.append_assoc]

/-- The statements of all columns in a row, whatever is said in between. -/
theorem output_flatMap_generatedLines (statements : List Generated) :
    output (statements.flatMap generatedLines) =
      String.join (statements.map fun generated => generated.sql ++ ";\n") := by
  induction statements with
  | nil => rfl
  | cons generated statements ih =>
    rw [List.flatMap_cons, output_append, output_generatedLines, ih, List.map_cons,
      String.join_cons]

/-- What is printed says the table and the statements, whichever way it is laid out. -/
theorem shows_statements (format : Format) (quiet : Bool) (table : String)
    (statements : List Generated) :
    Shows format table statements (Report.statements format quiet table statements).output := by
  cases format with
  | human =>
    have ending : output (if quiet then [] else [remark (summary table statements)]) = "" := by
      cases quiet <;> rfl
    rw [Shows, Report.statements, output_append, output_flatMap_generatedLines, ending,
      String.append_empty]
  | json =>
    -- The reader gives the whole page back, for it is a tree of texts.
    have textual : (Datum.table [("statements", .list (statements.map generatedDatum)),
        ("table", .text table)]).Textual := by
      refine .table fun entry member => ?_
      simp only [List.mem_cons, List.not_mem_nil, or_false] at member
      rcases member with rfl | rfl
      · refine .list fun item member => ?_
        obtain ⟨generated, -, rfl⟩ := List.mem_map.mp member
        exact textual_generatedDatum generated
      · exact .text table
    have page := Json.parse?_pretty textual
    have read := mapM_written Generated.ofDatum?_generatedDatum statements
    simp [Shows, Report.statements, ofDatum, readStatements?, page, Datum.table?,
      List.lookup_cons, Datum.text?, Datum.list?, read]

end Report

/-! ### The statements of a run -/

/-- What is generated for a column: the statement of the profile that fits the alteration, and what
is to be said about it. -/
structure AlterInputs.Describes (parse : StatementParser) (inputs : AlterInputs)
    (request : AlterRequest) (column : Column) (generated : Generated) : Prop where
  named : generated.column = column.name
  added : request.alteration = .add →
    generated.sql = inputs.profile.addColumn (inputs.table request) column inputs.config.keys
  modified : request.alteration = .modify →
    generated.sql = inputs.profile.modifyColumn (inputs.table request) column inputs.config.keys
  dropped : request.alteration = .drop →
    generated.sql = inputs.profile.dropColumn (inputs.table request) column
  warned : generated.warnings =
    (if request.alteration ≠ .drop ∧ column.logicalType = .unknown then
      [Alteration.unmappedTypeWarning column]
    else []) ++
      -- Only a statement that is to be verified can be found at fault.
      if request.verify then
        match parse inputs.profile.checkedAs generated.sql with
        | some fault => [Alteration.faultWarning inputs.profile fault]
        | none => []
      else []

namespace AlterInputs

theorem describes_generate (parse : StatementParser) (inputs : AlterInputs)
    (request : AlterRequest) (column : Column) :
    inputs.Describes parse request column (inputs.generate parse request column) := by
  refine ⟨rfl, ?_, ?_, ?_, ?_⟩
  · intro adds
    simp only [generate, Alteration.generate, adds, Alteration.statement]
  · intro modifies
    simp only [generate, Alteration.generate, modifies, Alteration.statement]
  · intro drops
    simp only [generate, Alteration.generate, drops, Alteration.statement]
  · have marked := inputs.vendor.define_eq_marker_iff (.ofAttributes inputs.config.attributes)
      column inputs.config.keys
    have same : inputs.profile = inputs.vendor.profile (.ofAttributes inputs.config.attributes) :=
      rfl
    simp only [generate, Alteration.generate, Alteration.warnings, same, marked]
    congr 1
    -- The fault is looked for in the statement that has been generated.
    cases request.verify with
    | false => rfl
    | true =>
      simp only [if_true, Option.bind_some]
      split
      next fault found => rw [found]; rfl
      next none => rw [none]; rfl

theorem describes_statements (parse : StatementParser) (inputs : AlterInputs)
    (request : AlterRequest) :
    List.Forall₂ (inputs.Describes parse request) inputs.columns
      (inputs.statements parse request) := by
  unfold statements
  generalize inputs.columns = columns
  induction columns with
  | nil => exact .nil
  | cons column columns ih => exact .cons (inputs.describes_generate parse request column) ih

theorem flagged_iff (parse : StatementParser) (inputs : AlterInputs) (request : AlterRequest) :
    inputs.flagged parse request = true ↔
      ∃ generated ∈ inputs.statements parse request, generated.warnings ≠ [] := by
  simp [flagged]

end AlterInputs

/-- A run succeeds exactly if its inputs are found. It has then generated one statement for each
column, in order, and, whatever the format and however quiet, prints them all and tells by its exit
code whether there was a warning. -/
theorem alter_reports_columns (parse : StatementParser) (files : Files Id) (globals : Globals)
    (request : AlterRequest) (choice : Choice) :
    (exitCode (run parse files ⟨globals, .alter request choice⟩) ≠ failureCode ↔
        ∃ inputs : AlterInputs, inputs.Found files globals request choice) ∧
      ∀ inputs : AlterInputs, inputs.Found files globals request choice →
        ∃ statements : List Generated,
          List.Forall₂ (inputs.Describes parse request) inputs.columns statements ∧
          ∀ (format : Option Format) (quiet : Bool),
            let outcome := run parse files ⟨{ globals with format, quiet }, .alter request choice⟩
            Report.Shows (inputs.config.outputFormat format) (inputs.table request) statements
                (output outcome) ∧
              exitCode outcome =
                if ∃ generated ∈ statements, generated.warnings ≠ [] then 1 else 0 := by
  refine ⟨exitCode_alter_ne_failureCode_iff parse, ?_⟩
  intro inputs found
  refine ⟨inputs.statements parse request, inputs.describes_statements parse request, ?_⟩
  intro format quiet outcome
  -- Format and quiet have no part in what is found, so the run ends the same way with any of them.
  have same : outcome = { ended := .ok (inputs.flagged parse request), report := _ } :=
    run_alter_of_found parse (found.with_output format quiet)
  rw [same]
  constructor
  · exact Report.shows_statements _ quiet _ _
  · exact if_congr (inputs.flagged_iff parse request) rfl rfl

/-- A column whose type nobody knows, in the second of two files. -/
theorem alter_reports_unmapped_column :
    let tree := FileTree.ofFiles
      [("a.toml", "[[columns]]\nname = \"id\"\ntype = \"integer\"\n"),
        ("b.toml", "[[columns]]\nname = \"area\"\ntype = \"geometry\"\n")] ""
    let request : AlterRequest :=
      { files := ["a.toml", "b.toml"], table := "t", keys := { technical := some "ID" } }
    let choice : Choice := { vendor := some "mysql" }
    let run := run (fun _ _ => none) tree.files
    exitCode (run ⟨{}, .alter request choice⟩) = 1 ∧
      output (run ⟨{}, .alter request choice⟩) =
        "ALTER TABLE t ADD id BIGINT PRIMARY KEY;\nALTER TABLE t ADD area UNKNOWN;\n" ∧
      ∃ inputs : AlterInputs, inputs.Found tree.files {} request choice ∧
        ∃ statements : List Generated,
          List.Forall₂ (inputs.Describes (fun _ _ => none) request) inputs.columns statements ∧
          ∀ (format : Option Format) (quiet : Bool),
            let outcome := run ⟨{ format, quiet }, .alter request choice⟩
            Report.Shows (inputs.config.outputFormat format) (inputs.table request) statements
                (output outcome) ∧
              exitCode outcome =
                if ∃ generated ∈ statements, generated.warnings ≠ [] then 1 else 0 := by
  intro tree request choice run
  have warned : exitCode (run ⟨{}, .alter request choice⟩) = 1 := by
    decide +kernel
  have printed : output (run ⟨{}, .alter request choice⟩) =
      "ALTER TABLE t ADD id BIGINT PRIMARY KEY;\nALTER TABLE t ADD area UNKNOWN;\n" := by
    decide +kernel
  have succeeded : exitCode (run ⟨{}, .alter request choice⟩) ≠ failureCode := by
    rw [warned]
    decide
  obtain ⟨found_iff, reports⟩ :=
    alter_reports_columns (fun _ _ => none) tree.files {} request choice
  obtain ⟨inputs, found⟩ := found_iff.mp succeeded
  exact ⟨warned, printed, inputs, found, reports inputs found⟩

end VendorSql
