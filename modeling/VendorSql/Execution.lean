import VendorSql.Record
import VendorSql.CommandLine
import VendorSql.Glob.Expansion
import VendorSql.Registry
import VendorSql.Report
import VendorSql.Statement
import VendorSql.Text.Printable

/-!
# Running a command

A command reads its configuration first, then settles the profile, and writes its answer piece by
piece. It may fail at any point, and what it has written by then stays written. A command that
succeeds also tells whether something in its answer is worth a second look. Only altering a table
reads files other than the configuration.
-/
namespace VendorSql

open CommandLine

/-- Why a command fails. -/
inductive CommandError where
  | unknownDirectory (cause : ReadError)
  | unreadableConfig (cause : ReadError)
  | invalidConfig
  | profile (cause : Error)
  | invalidPattern (cause : Glob.PatternError)
  | noFiles (patterns : List String)
  | unreadableColumns (path : String)
  | invalidColumns (path : String)
  | missingSequenceName (question : SequenceQuestion)
  deriving Repr, DecidableEq

/-- How a failure is reported. What is wrong with a configuration is left to the reader of its
notation to say. -/
def CommandError.message? : CommandError → Option String
  | unknownDirectory cause => some cause.message
  | unreadableConfig cause => some cause.message
  | invalidConfig => none
  | profile cause => some cause.message
  | invalidPattern cause => some cause.message
  | noFiles patterns =>
    some ("No column files matched " ++ Text.shownList (patterns.map Text.shown))
  | unreadableColumns path => some ("failed to read " ++ path)
  | invalidColumns path => some ("invalid column file " ++ path)
  | missingSequenceName question => some ("a sequence name is required for " ++ question.label)

/-- A program that can write and can fail; failing takes back nothing that has been written. -/
abbrev Program (m : Type → Type) (α : Type) := ExceptT CommandError (StateT Report m) α

/-- How a run has ended, and what it has written. -/
structure Outcome where
  /-- Whether there was a warning, or why the command failed. -/
  ended : Except CommandError Bool
  report : Report
  deriving Repr

namespace Program

variable {m : Type → Type} [Monad m]

def write (report : Report) : Program m Unit :=
  modify (· ++ report)

/-- Runs a program from the start. -/
def outcome (program : Program m Bool) : m Outcome := do
  let (ended, report) ← StateT.run (ExceptT.run program) []
  return { ended, report }

end Program

namespace Execution

/-! ### What needs no files -/

def profileOf (config : Config) : Except CommandError Profile :=
  match Registry.builtin.create config.vendorName config.attributes with
  | .ok profile => .ok profile.result
  | .error cause => .error (.profile cause)

/-- The built-in vendors, each with the name of its product. -/
def vendorNames : List (String × String) :=
  Registry.builtin.tags.filterMap fun tag =>
    match Registry.builtin.create tag .empty with
    | .ok profile => some (tag, profile.result.name)
    | .error _ => none

/-- A statement that exists, or the feature that would be needed for it. -/
def orUnsupported (profile : Profile) (feature : Feature) (statement : Option String) :
    Except CommandError String :=
  match statement with
  | some statement => .ok statement
  | none => .error (.profile (.unsupported profile.name feature))

def sequenceQuery (profile : Profile) (question : SequenceQuestion) (name : Option String) :
    Except CommandError String :=
  match question, name with
  | .all, _ => orUnsupported profile .sequences profile.sequencesQuery?
  | .next, some name => orUnsupported profile .sequences (profile.nextValueQuery? name)
  | .current, some name => orUnsupported profile .sequences (profile.currentValueQuery? name)
  | .existence, some name => orUnsupported profile .sequences (profile.sequenceExistsQuery? name)
  | question, none => .error (.missingSequenceName question)

def lockStatements (profile : Profile) (tables : List String) :
    Except CommandError (List (String × String)) := do
  let lock ← orUnsupported profile .tableLocks (profile.lockTables? tables)
  return ("lock", lock) :: ((profile.unlockTables? tables).map (("unlock", ·))).toList

/-- The port that is given, else the one the vendor uses by itself, else none. -/
def portText (profile : Profile) (port : Option String) : String :=
  (port.or ((profile.capabilities.port? .native).map fun port => Number.decimal port.toNat)).getD ""

/-! ### What is read from files -/

variable {m : Type → Type} [Monad m] (parse : StatementParser) (files : Files m)

/-- The configuration in the first of the directories that has one. -/
def configIn : List String → m (Option String)
  | [] => return none
  | directory :: above => do
    if (← files.kind (directory ++ Config.fileName)).isSome then
      return some (directory ++ Config.fileName)
    else configIn above

/-- The nearest configuration in the working directory or above. -/
def nearestConfig : Program m (Option String) := do
  match ← files.above with
  | .error cause => throw (.unknownDirectory cause)
  | .ok directories => (configIn files directories : m (Option String))

def readConfig (path : String) : Program m Config := do
  match ← files.read path with
  | .error cause => throw (.unreadableConfig cause)
  | .ok text => match Config.parse? text with
    | some config => return config
    | none => throw .invalidConfig

/-- The configuration that is named, else the nearest one, else an empty one. -/
def loadConfig (path : Option String) : Program m Config := do
  match path with
  | some path => readConfig files path
  | none => match ← nearestConfig files with
    | some path => readConfig files path
    | none => return {}

/-- The column files that a path or a pattern stands for. -/
def argumentFiles (argument : String) : Program m (List String) := do
  if Glob.isPattern argument then
    match Glob.Pattern.ofText argument with
    | .error cause => throw (.invalidPattern cause)
    | .ok pattern => (Glob.expand files pattern : m (List String))
  else return [argument]

/-- The column files that paths and patterns stand for, in order. -/
def columnFiles (arguments : List String) : Program m (List String) := do
  return (← arguments.mapM (argumentFiles files)).flatten

def readColumns (path : String) : Program m (List Column) := do
  match ← files.read path with
  | .error _ => throw (.unreadableColumns path)
  | .ok text => match ColumnFile.parse? text with
    | some columns => return columns
    | none => throw (.invalidColumns path)

/-! ### The commands -/

def fileStatements (generate : Column → Generated) (path : String) :
    Program m (List Generated) := do
  return (← readColumns files path).map generate

/-- Writes the statements that alter a table, one for each column of each file. -/
def alter (config : Config) (format : Format) (quiet : Bool) (request : AlterRequest)
    (choice : Choice) : Program m Bool := do
  let config := (config.chooseKeys request.keys).choose choice
  let profile ← profileOf config
  let paths ← columnFiles files request.files
  if paths = [] then throw (.noFiles request.files)
  let table := profile.qualifiedName request.schema request.table
  let parser := if request.verify then some parse else none
  let generate := request.alteration.generate profile parser table config.keys
  let statements ← paths.mapM (fileStatements files generate)
  Program.write (.statements format quiet table statements.flatten)
  return statements.flatten.any fun generated => generated.warnings ≠ []

def answer (config : Config) (format : Format) (quiet : Bool) : Command → Program m Bool
  | .vendors => do
    Program.write (.vendors format vendorNames)
    return false
  | .capabilities choice => do
    let profile ← profileOf (config.choose choice)
    Program.write (.capabilities format profile)
    return false
  | .alter request choice => alter parse files config format quiet request choice
  | .quote value asIdentifier choice => do
    let profile ← profileOf (config.choose choice)
    let quoted := if asIdentifier then profile.quoteName value else profile.quoteText value
    Program.write (.values format [("quoted", quoted)])
    return false
  | .url host port database choice => do
    let profile ← profileOf (config.choose choice)
    let url := profile.connectionUrl host (portText profile port) database
    Program.write (.values format [("url", url)])
    return false
  | .sequence question name choice => do
    let profile ← profileOf (config.choose choice)
    let sql ← sequenceQuery profile question name
    Program.write (.values format [("sql", sql)])
    return false
  | .lock tables choice => do
    let profile ← profileOf (config.choose choice)
    let statements ← lockStatements profile tables
    Program.write (.values format statements)
    return false

def run (invocation : Invocation) : m Outcome := Program.outcome do
  let config ← loadConfig files invocation.globals.config
  answer parse files config (config.outputFormat invocation.globals.format)
    invocation.globals.quiet invocation.command

/-! ### What the caller sees -/

def failureCode : Nat := 2

/-- The exit code: whether the run failed, and whether something is worth a second look. -/
def exitCode (outcome : Outcome) : Nat :=
  match outcome.ended with
  | .ok flagged => if flagged then 1 else 0
  | .error _ => failureCode

def output (outcome : Outcome) : String :=
  outcome.report.output

end Execution

end VendorSql
