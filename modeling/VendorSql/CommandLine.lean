import VendorSql.Alteration
import VendorSql.CommandLine.Word
import VendorSql.Config

/-!
# The command line

A command line that is well formed says what to do, from which configuration, and how to print the
result. There is one way to be ill formed as far as this library is concerned: no partial meaning
is given to a command line in which anything is unknown, missing, repeated or left over. A setting
that may stand anywhere counts as given after the verb if it stands in both places.

How much the program logs can be settled too; it has no part in the results described here.
-/
namespace VendorSql.CommandLine

inductive SequenceQuestion where
  | next
  | current
  | existence
  | all
  deriving Repr, DecidableEq

namespace SequenceQuestion

def ofName? (name : String) : Option SequenceQuestion :=
  match name with
  | "next" => some next
  | "current" => some current
  | "exists" => some existence
  | "list" => some all
  | _ => none

/-- How a question is named in messages. -/
def label : SequenceQuestion → String
  | next => "Next"
  | current => "Current"
  | existence => "Exists"
  | all => "List"

end SequenceQuestion

/-- What the statements that alter a table are generated from. -/
structure AlterRequest where
  /-- Paths of column files, or patterns of them. -/
  files : List String
  table : String
  schema : Option String := none
  alteration : Alteration := .add
  keys : KeyColumns := {}
  /-- Whether the statements are to be checked by a parser. -/
  verify : Bool := false
  deriving Repr, DecidableEq

inductive Command where
  | vendors
  | capabilities (choice : Choice)
  | alter (request : AlterRequest) (choice : Choice)
  | quote (value : String) (asIdentifier : Bool) (choice : Choice)
  | url (host : String) (port : Option String) (database : String) (choice : Choice)
  | sequence (question : SequenceQuestion) (name : Option String) (choice : Choice)
  | lock (tables : List String) (choice : Choice)
  deriving Repr, DecidableEq

/-- What is settled for any command. -/
structure Globals where
  quiet : Bool := false
  config : Option String := none
  format : Option Format := none
  deriving Repr, DecidableEq

structure Invocation where
  globals : Globals := {}
  command : Command
  deriving Repr, DecidableEq

/-- The value of a setting that may be given once, by the meaning of its text. -/
def read? {α : Type} (words : List Word) (setting : Setting) (meaning : String → Option α) :
    Option (Option α) := do
  match ← value? words setting with
  | none => some none
  | some text => (meaning text).map some

/-- A path has to have characters. -/
def path? (text : String) : Option String :=
  if text = "" then none else some text

namespace Globals

def ofWords? (words : List Word) : Option Globals := do
  let quiet ← flag? words .quiet
  let config ← read? words .config path?
  let format ← read? words .format Format.ofName?
  some { quiet, config, format }

/-- What is settled before and after the verb. -/
def combine (before after : Globals) : Globals where
  quiet := before.quiet || after.quiet
  config := after.config.or before.config
  format := after.format.or before.format

end Globals

def choice? (words : List Word) : Option Choice := do
  let vendor ← value? words .vendor
  let attributes ← (values words .assignment).mapM Attributes.assignment?
  some { vendor, attributes }

def alterRequest? (words : List Word) : Option AlterRequest := do
  let files ← (operands words).mapM path?
  let table ← (← value? words .table)
  let schema ← value? words .schema
  let alteration ← read? words .alteration Alteration.ofName?
  let technical ← value? words .technicalKey
  let primary ← value? words .primaryKey
  let autoIncrement ← flag? words .autoIncrement
  let verify ← flag? words .verify
  if files = [] then none
  else
    some {
      files
      table
      schema
      alteration := alteration.getD .add
      keys := { technical, primary, autoIncrement }
      verify }

namespace Command

/-- The command that a verb and the words after it describe. -/
def ofWords? (verb : Verb) (words : List Word) : Option Command := do
  let choice ← choice? words
  match verb, operands words with
  | .vendors, [] => some .vendors
  | .capabilities, [] => some (.capabilities choice)
  | .ddl, _ => some (.alter (← alterRequest? words) choice)
  | .quote, [value] => some (.quote value (← flag? words .identifier) choice)
  | .url, [] =>
    let host ← value? words .host
    let port ← value? words .port
    let database ← (← value? words .database)
    some (.url (host.getD "localhost") port database choice)
  | .sequence, [question] => some (.sequence (← SequenceQuestion.ofName? question) none choice)
  | .sequence, [question, name] =>
    some (.sequence (← SequenceQuestion.ofName? question) (some name) choice)
  | .lock, table :: tables => some (.lock (table :: tables) choice)
  | _, _ => none

end Command

def Invocation.ofArguments? (arguments : List String) : Option Invocation := do
  let (before, verb, after) ← splitAtVerb? (← words? arguments)
  let globals := (← Globals.ofWords? before).combine (← Globals.ofWords? after)
  some { globals, command := ← Command.ofWords? verb after }

end VendorSql.CommandLine
