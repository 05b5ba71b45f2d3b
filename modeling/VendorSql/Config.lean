import VendorSql.Attributes
import VendorSql.Column
import VendorSql.Datum
import VendorSql.Text.Parts
import VendorSql.Toml.Reader
import VendorSql.Vendor

/-!
# Configuration

What is settled before a command runs: the vendor, the attributes of the connection, the keys and
the format of the output. A file gives a first answer to each, and the command line has the last
word. An attribute on the command line takes the place of the one in the file that a lookup would
find under its key.
-/
namespace VendorSql

inductive Format where
  | human
  | json
  deriving Repr, DecidableEq

def Format.ofName? (name : String) : Option Format :=
  match name with
  | "human" => some human
  | "json" => some json
  | _ => none

/-- The key and the value of an attribute written as one text. The key has to be there; blanks
around either do not count. -/
def Attributes.assignment? (text : String) : Option (String × String) := do
  let (key, value) ← Text.splitFirst? '=' text.toList
  let key := Text.trimChars key
  if key = [] then none
  else some (String.ofList key, String.ofList (Text.trimChars value))

/-- What the command line says about the database. -/
structure Choice where
  vendor : Option String := none
  attributes : List (String × String) := []
  deriving Repr, DecidableEq

structure Config where
  vendor : Option String := none
  attributes : Attributes := .empty
  keys : KeyColumns := {}
  format : Option String := none
  deriving Repr, DecidableEq

namespace Config

/-- The name under which a configuration is looked for. -/
def fileName : String := "dialectkit.toml"

/-! ### The file -/

/-- The value of an entry that may be missing. -/
def entry? {α : Type} (entries : List (String × Datum)) (key : String) (read : Datum → Option α) :
    Option (Option α) :=
  match entries.lookup key with
  | none => some none
  | some datum => (read datum).map some

/-- A table of texts. A moment is well written where a table is expected, and holds no attribute. -/
def attributesOfDatum? : Datum → Option Attributes
  | .table entries => do
    some (.ofList (← entries.mapM fun (key, value) => value.text?.map (key, ·)))
  | .moment _ => some .empty
  | _ => none

/-- Every entry may be missing, and entries with other keys do not count. -/
def ofDatum? (datum : Datum) : Option Config := do
  let entries ← datum.table?
  let vendor ← entry? entries "vendor" Datum.text?
  let attributes ← entry? entries "attributes" attributesOfDatum?
  let technical ← entry? entries "technical_key" Datum.text?
  let primary ← entry? entries "primary_key" Datum.text?
  let autoIncrement ← entry? entries "auto_increment" Datum.bool?
  let format ← entry? entries "format" Datum.text?
  some {
    vendor
    attributes := attributes.getD .empty
    keys := { technical, primary, autoIncrement := autoIncrement.getD false }
    format }

def parse? (text : String) : Option Config :=
  (Toml.parse? text).bind ofDatum?

/-! ### The command line -/

/-- The attributes with one set from the command line. The first key that is equal up to case goes,
and the new one comes last. -/
def override (attributes : Attributes) (key value : String) : Attributes :=
  match attributes.keys.find? (Text.equalIgnoringCase · key) with
  | some present => (attributes.erase present).insert key value
  | none => attributes.insert key value

/-- The configuration with the database that the command line asks for. -/
def choose (config : Config) (choice : Choice) : Config :=
  { config with
    vendor := choice.vendor.or config.vendor
    attributes := choice.attributes.foldl (fun attributes (key, value) =>
      override attributes key value) config.attributes }

/-- The configuration with the keys that the command line asks for. Numbering by the database can
be asked for there, not refused. -/
def chooseKeys (config : Config) (keys : KeyColumns) : Config :=
  { config with
    keys := {
      technical := keys.technical.or config.keys.technical
      primary := keys.primary.or config.keys.primary
      autoIncrement := config.keys.autoIncrement || keys.autoIncrement } }

/-! ### What is settled -/

def vendorName (config : Config) : String :=
  config.vendor.getD Vendor.assumed.tag

/-- The format of the output: what the command line says, else what the configuration says, if it is
the name of a format, else text for people. -/
def outputFormat (config : Config) (chosen : Option Format) : Format :=
  (chosen.or (config.format.bind Format.ofName?)).getD .human

end Config

end VendorSql
