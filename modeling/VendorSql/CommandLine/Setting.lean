/-!
# The vocabulary of the command line

The commands, the settings that may be given with them, and how both are spelled. Four settings
may stand anywhere; every other one belongs to some of the commands.
-/
namespace VendorSql.CommandLine

inductive Verb where
  | vendors
  | capabilities
  | ddl
  | quote
  | url
  | sequence
  | lock
  deriving Repr, DecidableEq

/-- What can be settled beside the operands. -/
inductive Setting where
  | verbose
  | quiet
  | config
  | format
  | vendor
  | assignment
  | table
  | schema
  | alteration
  | technicalKey
  | primaryKey
  | autoIncrement
  | verify
  | identifier
  | host
  | port
  | database
  deriving Repr, DecidableEq

def Verb.ofName? (name : String) : Option Verb :=
  match name with
  | "vendors" => some vendors
  | "capabilities" => some capabilities
  | "ddl" => some ddl
  | "quote" => some quote
  | "url" => some url
  | "sequence" => some sequence
  | "lock" => some lock
  | _ => none

namespace Setting

def name : Setting → String
  | verbose => "verbose"
  | quiet => "quiet"
  | config => "config"
  | format => "format"
  | vendor => "vendor"
  | assignment => "attr"
  | table => "table"
  | schema => "schema"
  | alteration => "op"
  | technicalKey => "tk"
  | primaryKey => "pk"
  | autoIncrement => "auto-increment"
  | verify => "verify"
  | identifier => "identifier"
  | host => "host"
  | port => "port"
  | database => "database"

/-- The letter that may stand after one dash instead. -/
def letter? : Setting → Option Char
  | verbose => some 'v'
  | quiet => some 'q'
  | format => some 'f'
  | vendor => some 'd'
  | assignment => some 'a'
  | table => some 't'
  | schema => some 's'
  | identifier => some 'i'
  | config | alteration | technicalKey | primaryKey | autoIncrement | verify | host | port
  | database => none

/-- Whether a value has to follow. A setting without one is either given or not. -/
def takesValue : Setting → Bool
  | verbose | quiet | autoIncrement | verify | identifier => false
  | _ => true

/-- The settings that may stand anywhere. -/
def everywhere : List Setting := [verbose, quiet, config, format]

def choosing : List Setting := [vendor, assignment]

/-- The settings that may stand after a verb. -/
def after : Verb → List Setting
  | .vendors => everywhere
  | .capabilities | .sequence | .lock => everywhere ++ choosing
  | .ddl =>
    everywhere ++ choosing ++
      [table, schema, alteration, technicalKey, primaryKey, autoIncrement, verify]
  | .quote => everywhere ++ choosing ++ [identifier]
  | .url => everywhere ++ choosing ++ [host, port, database]

/-- The settings that may stand after the verb, or before it if there is none yet. -/
def allowed : Option Verb → List Setting
  | none => everywhere
  | some verb => after verb

end Setting

end VendorSql.CommandLine
