import VendorSql.Alteration
import VendorSql.Config
import VendorSql.Json.Writer
import VendorSql.Record

/-!
# Reports

What a command writes: pieces of its result, and between them what is said beside the result. Each
result is laid out in lines for people or as one JSON value for programs.
-/
namespace VendorSql

/-- A piece of text that is written, to the result or beside it. -/
inductive Written where
  | result (text : String)
  | aside (text : String)
  deriving Repr, DecidableEq

/-- What has been written, in order. -/
abbrev Report := List Written

namespace Report

def output (report : Report) : String :=
  String.join (report.map fun
    | .result text => text
    | .aside _ => "")

/-- What is said beside the result. -/
def messages (report : Report) : String :=
  String.join (report.map fun
    | .result _ => ""
    | .aside text => text)

/-! ### Layout -/

/-- Lines of a result, each with its end. -/
def lines (texts : List String) : Report :=
  texts.map fun text => .result (text ++ "\n")

/-- A line beside the result. -/
def remark (text : String) : Written :=
  .aside (text ++ "\n")

/-- A text with blanks after it up to a width. -/
def padded (width : Nat) (text : String) : String :=
  text ++ String.ofList (List.replicate (width - text.length) ' ')

/-- A label in the left column and what belongs to it. -/
def labelled (label text : String) : String :=
  "  " ++ padded 28 label ++ " " ++ text

def colored (code text : String) : String :=
  "\x1b[" ++ code ++ "m" ++ text ++ "\x1b[0m"

def yesOrNo (value : Bool) : String :=
  if value then colored "32" "yes" else colored "31" "no"

def ofDatum (datum : Datum) : Report :=
  lines [Json.pretty datum]

/-! ### The results of the commands -/

def vendors (format : Format) (vendors : List (String × String)) : Report :=
  match format with
  | .human => lines (vendors.map fun (tag, product) => padded 12 tag ++ " " ++ product)
  | .json =>
    ofDatum (.list (vendors.map fun (tag, product) =>
      .table [("name", .text product), ("tag", .text tag)]))

def capabilityLines (profile : Profile) : List String :=
  let capabilities := profile.capabilities
  let flags :=
    [("catalogs", capabilities.catalogs), ("schemas", capabilities.schemas),
      ("sequences", capabilities.sequences),
      ("sequences without max value", capabilities.sequencesWithoutMaximum),
      ("bitmap indexes", capabilities.bitmapIndexes), ("synonyms", capabilities.synonyms),
      ("boolean type", capabilities.booleanType),
      ("batch error handling", capabilities.batchErrorHandling),
      ("savepoints", capabilities.savepoints)]
  [profile.name, String.ofList (List.replicate profile.name.utf8ByteSize '=')] ++
    flags.map (fun (label, flag) => labelled label (yesOrNo flag)) ++
    [labelled "max inline varchar" (Number.decimal capabilities.maxInlineVarchar.toInt),
      labelled "identifier quotes" (profile.quotes.opening ++ profile.quotes.closing),
      labelled "schema separator" profile.separator] ++
    capabilities.ports.entries.map fun (mode, port) =>
      labelled ("port (" ++ mode.name ++ ")")
        (match port with
          | some port => Number.decimal port.toNat
          | none => "-")

def capabilities (format : Format) (profile : Profile) : Report :=
  match format with
  | .human => lines (capabilityLines profile)
  | .json =>
    ofDatum (.table
      ([("vendor", .text profile.name),
        ("identifier_quotes", .list [.text profile.quotes.opening, .text profile.quotes.closing]),
        ("schema_table_separator", .text profile.separator)] ++ profile.capabilities.entries))

/-- A statement with its warnings, if there are any. -/
def generatedDatum (generated : Generated) : Datum :=
  .table ([("column", .text generated.column), ("sql", .text generated.sql)] ++
    if generated.warnings = [] then []
    else [("warnings", .list (generated.warnings.map .text))])

/-- How many statements and warnings there are. -/
def summary (table : String) (statements : List Generated) : String :=
  "Generated " ++ toString statements.length ++ " statement(s) for " ++ table ++ " with " ++
    toString (statements.flatMap Generated.warnings).length ++ " warning(s)"

/-- A statement for people. Its warnings stand beside the result and come first. -/
def generatedLines (generated : Generated) : Report :=
  generated.warnings.map (fun warning => remark (colored "33" "warning" ++ ": " ++ warning)) ++
    lines [generated.sql ++ ";"]

def statements (format : Format) (quiet : Bool) (table : String) (statements : List Generated) :
    Report :=
  match format with
  | .human =>
    statements.flatMap generatedLines ++ if quiet then [] else [remark (summary table statements)]
  | .json =>
    ofDatum (.table
      [("statements", .list (statements.map generatedDatum)), ("table", .text table)])

/-- Results by name, the names in ascending order. -/
def values (format : Format) (values : List (String × String)) : Report :=
  match format with
  | .human => lines (values.map Prod.snd)
  | .json => ofDatum (.table (values.map fun (name, value) => (name, .text value)))

end Report

end VendorSql
