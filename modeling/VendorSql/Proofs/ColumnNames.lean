import VendorSql.Files.Tree
import VendorSql.Proofs.AlterationRuns
import VendorSql.Proofs.KeptNames

/-!
# The names of altered columns

A statement that alters a table takes the name of its column as the column file gives it. So it
names the column as the queries of the same profile do only if quoting would leave that name alone,
and a reader gets past the name at the place where it ends only if the name is a single word or
stands between quotes already. A name that is neither goes on as SQL.
-/
namespace VendorSql

open CommandLine Execution

namespace Alteration

/-- What a statement says in front of the name of its column. -/
def opening (alteration : Alteration) (vendor : Vendor) (table : String) : String :=
  "ALTER TABLE " ++ table ++
    match alteration, vendor with
    | add, .postgreSql => " ADD COLUMN "
    | add, _ => " ADD "
    | modify, .mySql => " MODIFY "
    | modify, _ => " ALTER COLUMN "
    | drop, .mySql => " DROP "
    | drop, _ => " DROP COLUMN "

def closing (alteration : Alteration) (vendor : Vendor) (type : String) : String :=
  match alteration, vendor with
  | drop, _ => ""
  | modify, .postgreSql => " TYPE " ++ type
  | modify, .generic => " SET DATA TYPE " ++ type
  | _, _ => " " ++ type

/-- The name stands between the two as it is given. -/
theorem statement_eq (alteration : Alteration) (vendor : Vendor) (settings : Settings)
    (table : String) (column : Column) (keys : KeyColumns) :
    alteration.statement (vendor.profile settings) table column keys =
      alteration.opening vendor table ++ column.name ++
        alteration.closing vendor ((vendor.profile settings).define column keys false false) := by
  have named (profile : Profile) : profile.define column keys true false =
      column.name ++ (" " ++ profile.define column keys false false) := by
    simp [Profile.define, columnDefinition, String.append_assoc]
  cases alteration <;> cases vendor <;>
    simp [statement, Profile.addColumn, Profile.modifyColumn, Profile.dropColumn, opening, closing,
      named, String.append_assoc]

theorem head?_closing {c : Char} {alteration : Alteration} {vendor : Vendor} {type : String}
    (first : c ∈ (alteration.closing vendor type).toList.head?) : c = ' ' := by
  cases alteration <;> cases vendor <;> simp [closing] at first <;> exact first.symm

end Alteration

/-! ### Names that a reader gets past -/

namespace Profile

/-- A name that is one word or stands between quotes, every closing quote inside being doubled. -/
def Contained (profile : Profile) (name : String) : Prop :=
  name.toList.all continuesIdentifier = true ∨ profile.quotes.IsQuoted name

variable {profile : Profile} {opening quote : Char}

/-- A reader gets past a name, and no further, exactly if the name is contained. -/
theorem readName?_append_iff (quotes : profile.QuotesWith opening quote)
    (unplain : continuesIdentifier opening = false) {rest : List Char}
    (apart : IdentifierQuotes.Apart opening quote rest) (text : String) :
    (∃ name, profile.readName? (text.toList ++ rest) = some (name, rest)) ↔
      profile.Contained text := by
  simp only [readName?_eq quotes, IdentifierQuotes.readIdentifier_append_iff unplain apart]
  constructor
  · -- What is read whole is a word, or the doubled form of a name between quotes.
    rintro ⟨name, ⟨-, word⟩ | quoted⟩
    · exact .inl word
    · refine .inr ⟨String.ofList (IdentifierQuotes.double [quote] name), ?_, ?_⟩
      · apply String.toList_injective
        simp [quoted, quotes.opens, quotes.closes]
      · rw [quotes.closes, String.toList_ofList]
        exact IdentifierQuotes.doubled_double quote name
  · -- Doubled quotes can be halved again, so between quotes there is a name that was doubled.
    rintro (word | ⟨body, rfl, doubled⟩)
    · exact ⟨text.toList, .inl ⟨rfl, word⟩⟩
    · rw [quotes.closes] at doubled
      obtain ⟨name, inside⟩ := IdentifierQuotes.eq_double_of_doubled doubled
      exact ⟨name, .inr (by simp [inside, quotes.opens, quotes.closes])⟩

end Profile

/-- Behind the name a statement ends or goes on with a space, so the name ends there for any reader.
-/
theorem Vendor.apart_closing (vendor : Vendor) {opening quote : Char} (unopened : opening ≠ ' ')
    (unquoted : quote ≠ ' ') (alteration : Alteration) (type : String) :
    IdentifierQuotes.Apart opening quote (alteration.closing vendor type).toList := by
  intro c first
  have blank : continuesIdentifier ' ' = false := by decide +kernel
  obtain rfl := Alteration.head?_closing first
  exact ⟨unopened.symm, unquoted.symm, blank⟩

namespace AlterInputs

/-- What the statement for a column says in front of its name. -/
def opening (inputs : AlterInputs) (request : AlterRequest) : String :=
  request.alteration.opening inputs.vendor (inputs.table request)

/-- What the statement for a column says behind its name. -/
def closing (inputs : AlterInputs) (request : AlterRequest) (column : Column) : String :=
  request.alteration.closing inputs.vendor
    (inputs.profile.define column inputs.config.keys false false)

/-- How a statement names its column. -/
structure Names (inputs : AlterInputs) (request : AlterRequest) (column : Column) (sql : String) :
    Prop where
  given : sql = inputs.opening request ++ column.name ++ inputs.closing request column
  /-- The name is written as the queries of the profile write it. -/
  quoted_iff :
    sql = inputs.opening request ++ inputs.profile.quoteName column.name ++
        inputs.closing request column ↔
      inputs.profile.Kept column.name
  /-- What is read as the name of the column is all that the column file put there. -/
  read_iff :
    (∃ name, inputs.profile.readName?
        (column.name.toList ++ (inputs.closing request column).toList) =
          some (name, (inputs.closing request column).toList)) ↔
      inputs.profile.Contained column.name

theorem names_statement (inputs : AlterInputs) (request : AlterRequest) (column : Column) :
    inputs.Names request column (request.alteration.statement inputs.profile
      (inputs.table request) column inputs.config.keys) := by
  obtain ⟨first, quote, quotes, unplain, unopened, unquoted⟩ :=
    inputs.vendor.quotesWith (.ofAttributes inputs.config.attributes)
  have given : request.alteration.statement inputs.profile (inputs.table request) column
      inputs.config.keys =
        inputs.opening request ++ column.name ++ inputs.closing request column :=
    request.alteration.statement_eq inputs.vendor (.ofAttributes inputs.config.attributes) _ _ _
  have kept : inputs.profile.quoteName column.name = column.name ↔
      inputs.profile.Kept column.name :=
    inputs.profile.quoteName_eq_self_iff column.name
  refine ⟨given, ?_, ?_⟩
  · rw [given, String.append_left_inj, String.append_right_inj, eq_comm]
    exact kept
  · exact Profile.readName?_append_iff quotes unplain
      (inputs.vendor.apart_closing unopened unquoted _ _) column.name

end AlterInputs

/-- In every run that succeeds, the statement for a column names it as the queries of the profile do
exactly if quoting leaves the name alone, and what is read as the name is all of it, and nothing
else, exactly if the name is contained. -/
theorem alter_names_columns (parse : StatementParser) (files : Files Id) (globals : Globals)
    (request : AlterRequest) (choice : Choice)
    (succeeded : exitCode (run parse files ⟨globals, .alter request choice⟩) ≠ failureCode) :
    ∃ inputs : AlterInputs, inputs.Found files globals request choice ∧
      (run parse files ⟨globals, .alter request choice⟩).report =
        inputs.report parse globals request ∧
      ∀ column ∈ inputs.columns,
        inputs.Names request column (inputs.generate parse request column).sql := by
  obtain ⟨inputs, found⟩ := (exitCode_alter_ne_failureCode_iff parse).mp succeeded
  have reported := congrArg Outcome.report (run_alter_of_found parse found)
  exact ⟨inputs, found, reported, fun column _ => inputs.names_statement request column⟩

/-- A name of two words in a column file. -/
theorem alter_names_columns_spaced :
    let tree := FileTree.ofFiles
      [("a.toml", "[[columns]]\nname = \"order date\"\ntype = \"date\"\n")] ""
    let request : AlterRequest := { files := ["a.toml"], table := "t" }
    let choice : Choice := { vendor := some "pg" }
    let parse : StatementParser := fun _ _ => none
    let outcome := run parse tree.files ⟨{}, .alter request choice⟩
    exitCode outcome ≠ failureCode ∧
      ∃ inputs : AlterInputs, inputs.Found tree.files {} request choice ∧
        outcome.report = inputs.report parse {} request ∧
        ∀ column ∈ inputs.columns,
          inputs.Names request column (inputs.generate parse request column).sql := by
  intro tree request choice parse outcome
  have succeeded : exitCode outcome ≠ failureCode := by
    decide +kernel
  exact ⟨succeeded, alter_names_columns parse tree.files {} request choice succeeded⟩

/-- A name that ends the statement and begins another one. -/
theorem alter_adds_statement :
    let name := "id INT; DROP TABLE u; --"
    let tree := FileTree.ofFiles
      [("a.toml", "[[columns]]\nname = \"" ++ name ++ "\"\ntype = \"date\"\n")] ""
    let request : AlterRequest := { files := ["a.toml"], table := "t" }
    let outcome := run (fun _ _ => none) tree.files
      ⟨{}, .alter request { vendor := some "pg" }⟩
    let profile := (Vendor.postgreSql.configure .empty).result
    exitCode outcome = 0 ∧
      output outcome = "ALTER TABLE t ADD COLUMN id INT; DROP TABLE u; -- TIMESTAMP;\n" ∧
      output outcome ≠
        "ALTER TABLE t ADD COLUMN " ++ profile.quoteName name ++ " TIMESTAMP;\n" := by
  decide +kernel

end VendorSql
