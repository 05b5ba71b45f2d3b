import VendorSql.Execution
import VendorSql.Proofs.AttributePrecedence
import VendorSql.Proofs.Lowercase

/-!
# A configuration given on the command line

What a file settles can be given on the command line instead, if its attributes can be written
there: each as a key, an equals sign and a value, of which the reader takes the first equals sign
for the end of the key and drops the blanks around both. Set one after another in a configuration
that is empty, they end up in the order of the file, since no two of them are spellings of one key.
So the whole configuration comes out, up to the format, which is passed on by itself; every command
answers the same.
-/
namespace VendorSql

open Text (equalIgnoringCase)
open CommandLine

/-! ### Attributes written and read -/

namespace Attributes

def assignments (attributes : Attributes) : List String :=
  attributes.entries.map fun (key, value) => key ++ "=" ++ value

/-- A key and a value that are written in one text are told apart again. -/
theorem assignment?_written {key value : String} (present : key ≠ "")
    (plain : '=' ∉ key.toList) (keyTrimmed : Text.trim key = key)
    (valueTrimmed : Text.trim value = value) :
    assignment? (key ++ "=" ++ value) = some (key, value) := by
  have mark : "=".toList = ['='] := rfl
  have split : Text.splitFirst? '=' (key ++ "=" ++ value).toList =
      some (key.toList, value.toList) := by
    rw [String.toList_append, String.toList_append, mark, List.append_assoc]
    exact Text.splitFirst?_append plain value.toList
  have readKey : String.ofList (Text.trimChars key.toList) = key := keyTrimmed
  have readValue : String.ofList (Text.trimChars value.toList) = value := valueTrimmed
  have kept : Text.trimChars key.toList ≠ [] := by
    intro gone
    rw [gone] at readKey
    exact present readKey.symm
  rw [assignment?, split]
  simp [kept, readKey, readValue]

end Attributes

namespace Config

/-! ### Attributes set one after another -/

theorem entries_override_new {attributes : Attributes} {key : String}
    (new : ∀ present ∈ attributes.keys, equalIgnoringCase present key = false) (value : String) :
    (override attributes key value).entries = attributes.entries ++ [(key, value)] := by
  have dropped : attributes.keys.find? (equalIgnoringCase · key) = none := by
    rw [List.find?_eq_none]
    intro present member
    simp [new present member]
  have absent : key ∉ attributes.keys := by
    intro member
    have differ := new key member
    rw [Text.equalIgnoringCase_refl] at differ
    cases differ
  rw [override, dropped]
  exact OrderedMap.setEntry_of_not_mem absent value

/-- Attributes of which none is a spelling of another come in one behind the other. -/
theorem entries_foldl_override {attributes : Attributes} {given : List (String × String)}
    (apart : ((attributes.entries ++ given).map Prod.fst).Pairwise
      fun first second => equalIgnoringCase first second = false) :
    (given.foldl (fun attributes (key, value) => override attributes key value)
      attributes).entries = attributes.entries ++ given := by
  -- What is there already grows by one entry with each step; that it stays apart from what is
  -- still to come is the hypothesis on the two lists together.
  induction given generalizing attributes with
  | nil => simp
  | cons entry given ih =>
    obtain ⟨key, value⟩ := entry
    have new : ∀ present ∈ attributes.keys, equalIgnoringCase present key = false := by
      rw [List.map_append, List.pairwise_append] at apart
      exact fun present member => apart.2.2 present member key List.mem_cons_self
    have step := entries_override_new new value
    have whole : attributes.entries ++ (key, value) :: given =
        (override attributes key value).entries ++ given := by
      rw [step, List.append_assoc]
      rfl
    rw [List.foldl_cons, ih (whole ▸ apart), ← whole]

theorem foldl_override_entries {attributes : Attributes} (unambiguous : attributes.Unambiguous) :
    attributes.entries.foldl (fun attributes (key, value) => override attributes key value) .empty =
      attributes :=
  OrderedMap.ext (entries_foldl_override unambiguous)

/-! ### Configurations -/

/-- The command line can say what is in the configuration. -/
structure Expressible (config : Config) : Prop where
  keys : ∀ key ∈ config.attributes.keys, key ≠ "" ∧ Text.trim key = key ∧ '=' ∉ key.toList
  values : ∀ entry ∈ config.attributes.entries, Text.trim entry.2 = entry.2
  unambiguous : config.attributes.Unambiguous
  format : config.format = none ∨ config.format = some "human" ∨ config.format = some "json"

theorem Expressible.read_assignments {config : Config} (expressible : config.Expressible) :
    config.attributes.assignments.mapM Attributes.assignment? =
      some config.attributes.entries := by
  have each : ∀ entry ∈ config.attributes.entries,
      Attributes.assignment? (entry.1 ++ "=" ++ entry.2) = some entry := by
    intro entry member
    have key := expressible.keys entry.1 (List.mem_map_of_mem member)
    exact Attributes.assignment?_written key.1 key.2.2 key.2.1 (expressible.values entry member)
  rw [Attributes.assignments]
  generalize config.attributes.entries = entries at each
  induction entries with
  | nil => rfl
  | cons entry entries ih =>
    obtain ⟨first, later⟩ := List.forall_mem_cons.mp each
    simp [first, ih later]

theorem Expressible.read_format {config : Config} (expressible : config.Expressible) :
    config.format.mapM Format.ofName? = some (config.format.bind Format.ofName?) := by
  rcases expressible.format with absent | human | json
  · rw [absent]
    rfl
  · rw [human]
    rfl
  · rw [json]
    rfl

theorem outputFormat_given (config : Config) :
    ({} : Config).outputFormat (config.format.bind Format.ofName?) = config.outputFormat none := by
  simp [outputFormat]

/-- Nothing on the command line changes nothing. -/
theorem choose_nothing (config : Config) : config.choose {} = config := rfl

theorem chooseKeys_nothing (config : Config) : config.chooseKeys {} = config := by
  simp [chooseKeys]

theorem choose_entries {config : Config} (unambiguous : config.attributes.Unambiguous)
    (keys : KeyColumns) :
    (({} : Config).chooseKeys keys).choose
        { vendor := config.vendor, attributes := config.attributes.entries } =
      { config with keys, format := none } := by
  have attributes := foldl_override_entries unambiguous
  simp only [choose, chooseKeys, Option.or_none, Bool.false_or]
  exact congrArg (fun attributes =>
    ({ vendor := config.vendor, attributes, keys } : Config)) attributes

end Config

/-! ### Commands -/

/-- The command with what the command line settles about the database and, where a table is
altered, about its keys. -/
def CommandLine.Command.settle (keys : KeyColumns) (choice : Choice) : Command → Command
  | .vendors => .vendors
  | .capabilities _ => .capabilities choice
  | .alter request _ => .alter { request with keys } choice
  | .quote value asIdentifier _ => .quote value asIdentifier choice
  | .url host port database _ => .url host port database choice
  | .sequence question name _ => .sequence question name choice
  | .lock tables _ => .lock tables choice

namespace Config

/-- Without a file, the command line settles what the configuration does. -/
structure SettledBy (config : Config) (choice : Choice) (chosen : Option Format) : Prop where
  vendor : ((({} : Config).chooseKeys config.keys).choose choice).vendorName = config.vendorName
  attributes : ∀ key, ((({} : Config).chooseKeys config.keys).choose choice).attributes.value? key =
    config.attributes.value? key
  keys : ((({} : Config).chooseKeys config.keys).choose choice).keys = config.keys
  format : ({} : Config).outputFormat chosen = config.outputFormat none
  profile : Execution.profileOf ((({} : Config).chooseKeys config.keys).choose choice) =
    Execution.profileOf config
  answer : ∀ {m : Type → Type} [Monad m] (parse : StatementParser) (files : Files m) (quiet : Bool)
    (command : Command),
    Execution.answer parse files {} (({} : Config).outputFormat chosen) quiet
        (command.settle config.keys choice) =
      Execution.answer parse files config (config.outputFormat none) quiet (command.settle {} {})

/-- The profile depends on nothing but the vendor and the attributes. -/
theorem profileOf_congr {left right : Config} (vendor : left.vendor = right.vendor)
    (attributes : left.attributes = right.attributes) :
    Execution.profileOf left = Execution.profileOf right := by
  have name : left.vendorName = right.vendorName :=
    congrArg (Option.getD · Vendor.assumed.tag) vendor
  delta Execution.profileOf
  rw [name, attributes]

open Execution in
/-- Every command is answered alike, from the configuration or from the command line. -/
theorem answer_entries {config : Config} (unambiguous : config.attributes.Unambiguous)
    {m : Type → Type} [Monad m] (parse : StatementParser) (files : Files m) (format : Format)
    (quiet : Bool) (command : Command) :
    answer parse files {} format quiet (command.settle config.keys
        { vendor := config.vendor, attributes := config.attributes.entries }) =
      answer parse files config format quiet (command.settle {} {}) := by
  have whole := choose_entries unambiguous config.keys
  have part := choose_entries unambiguous {}
  rw [chooseKeys_nothing] at part
  have profile (keys : KeyColumns) :
      profileOf { config with keys, format := none } = profileOf config :=
    profileOf_congr rfl rfl
  -- Only altering a table looks at the keys; listing vendors looks at nothing.
  cases command with
  | vendors => rfl
  | alter request choice =>
    simp only [Command.settle, answer, alter, whole, choose_nothing, chooseKeys_nothing, profile]
  | _ => simp only [Command.settle, answer, part, choose_nothing, profile]

/-- A configuration that can be said on the command line is settled by what the command line takes
for it: its vendor and its keys, its attributes as they are read from the texts written for them,
and its format. -/
theorem settledBy_assignments (config : Config) (expressible : config.Expressible) :
    ∃ (attributes : List (String × String)) (chosen : Option Format),
      config.attributes.assignments.mapM Attributes.assignment? = some attributes ∧
        config.format.mapM Format.ofName? = some chosen ∧
        config.SettledBy { vendor := config.vendor, attributes } chosen := by
  have whole := choose_entries expressible.unambiguous config.keys
  refine ⟨config.attributes.entries, config.format.bind Format.ofName?,
    expressible.read_assignments, expressible.read_format, ?_⟩
  -- Vendor, attributes, format and profile agree, and with them every answer.
  refine ⟨?_, ?_, ?_, config.outputFormat_given, ?_, ?_⟩
  · rw [whole]
    rfl
  · intro key
    rw [whole]
  · rw [whole]
  · rw [whole]
    exact profileOf_congr rfl rfl
  · intro m _ parse files quiet command
    rw [outputFormat_given]
    exact answer_entries expressible.unambiguous parse files _ quiet command

/-- A URL with equals signs, a value without characters, keys and a format. -/
theorem settledBy_assignments_url :
    let config : Config :=
      { vendor := some "ANSI"
        attributes := .ofList [("CUSTOM_URL", "jdbc:h2:mem:a=b;c="), ("quote_all_fields", "")]
        keys := { technical := some "ID", autoIncrement := true }
        format := some "json" }
    config.Expressible ∧
      config.attributes.assignments = ["CUSTOM_URL=jdbc:h2:mem:a=b;c=", "quote_all_fields="] ∧
      ∃ (attributes : List (String × String)) (chosen : Option Format),
        config.attributes.assignments.mapM Attributes.assignment? = some attributes ∧
          config.format.mapM Format.ofName? = some chosen ∧
          config.SettledBy { vendor := config.vendor, attributes } chosen := by
  intro config
  have expressible : config.Expressible := by
    constructor <;> decide +kernel
  have written : config.attributes.assignments =
      ["CUSTOM_URL=jdbc:h2:mem:a=b;c=", "quote_all_fields="] := by decide +kernel
  exact ⟨expressible, written, settledBy_assignments config expressible⟩

end Config

end VendorSql
