import VendorSql.Proofs.RegistryHistory
import VendorSql.Statement

/-!
# Capabilities and what is written

A profile says what its database supports, and apart from that it writes statements or has none.
Some of the statements depend on a flag, some on the vendor, some on both. The two never contradict
each other in a profile that comes out of the built-in registry, whatever attributes it is made
from; of these only one changes a flag.
-/
namespace VendorSql

open Text (equalIgnoringCase)

namespace Profile

def sequenceQueries (profile : Profile) (sequence : String) : List (Option String) :=
  [profile.sequencesQuery?, profile.nextValueQuery? sequence, profile.currentValueQuery? sequence,
    profile.sequenceExistsQuery? sequence]

/-- What is written agrees with what is said to be supported. -/
structure Consistent (profile : Profile) : Prop where
  sequences : ∀ sequence, ∀ query ∈ profile.sequenceQueries sequence,
    query.isSome = profile.capabilities.sequences
  schemas : profile.schemasQuery?.isSome = profile.capabilities.schemas
  booleans : ∀ column keys withName withLineBreak, column.logicalType = .boolean →
    (profile.define column keys withName withLineBreak =
        (if withName then column.name ++ " " else "") ++ profile.tokens.boolean ++
          (if withLineBreak then "\n" else "") ↔
      profile.capabilities.booleanType = true)
  unlocking : ∀ tables, (profile.unlockTables? tables).isSome = true →
    (profile.lockTables? tables).isSome = true
  ports : ∀ mode, (profile.capabilities.port? mode).isSome = true →
    profile.capabilities.supports mode = true

/-! ### Any profile -/

/-- Whether the grammar of a profile has queries about sequences. -/
def knowsSequences (profile : Profile) : Bool :=
  profile.grammar = some .sqlServer || profile.grammar = some .postgreSql

/-- Either all queries about sequences exist or none does. -/
theorem isSome_of_mem_sequenceQueries {profile : Profile} {sequence : String}
    {query : Option String} (member : query ∈ profile.sequenceQueries sequence) :
    query.isSome = (profile.knowsSequences && profile.capabilities.sequences) := by
  simp only [sequenceQueries, List.mem_cons, List.not_mem_nil, or_false] at member
  -- Each query asks for the grammar and the flag together; its text does not matter here.
  rcases member with rfl | rfl | rfl | rfl
  · unfold sequencesQuery?
    split <;> grind [knowsSequences]
  · unfold nextValueQuery?
    split <;> grind [knowsSequences]
  · unfold currentValueQuery?
    split <;> grind [knowsSequences]
  · unfold sequenceExistsQuery?
    split <;> grind [knowsSequences]

theorem define_boolean (profile : Profile) {column : Column} (kind : column.logicalType = .boolean)
    (keys : KeyColumns) (withName withLineBreak : Bool) :
    profile.define column keys withName withLineBreak =
      (if withName then column.name ++ " " else "") ++
        (if profile.capabilities.booleanType then profile.tokens.boolean
          else profile.tokens.booleanFlag) ++
        (if withLineBreak then "\n" else "") := by
  simp only [define, columnDefinition, columnType, ColumnType.ofColumn, kind]
  cases profile.capabilities.booleanType <;> rfl

/-- Where the two tokens differ, the definition tells whether there is a boolean type. -/
theorem define_boolean_eq_iff {profile : Profile}
    (apart : profile.tokens.booleanFlag ≠ profile.tokens.boolean) {column : Column}
    (kind : column.logicalType = .boolean) (keys : KeyColumns) (withName withLineBreak : Bool) :
    profile.define column keys withName withLineBreak =
        (if withName then column.name ++ " " else "") ++ profile.tokens.boolean ++
          (if withLineBreak then "\n" else "") ↔
      profile.capabilities.booleanType = true := by
  rw [profile.define_boolean kind keys, String.append_left_inj, String.append_right_inj]
  cases profile.capabilities.booleanType <;> simp [apart]

/-- Where locks can be released they can be taken. -/
theorem isSome_lockTables? {profile : Profile} {tables : List String}
    (released : (profile.unlockTables? tables).isSome = true) :
    (profile.lockTables? tables).isSome = true := by
  unfold unlockTables? at released
  split at released
  next => cases released
  next named =>
    split at released
    next grammar =>
      rw [lockTables?, if_neg named, grammar]
      rfl
    next => cases released

end Profile

theorem Capabilities.supports_of_isSome_port? {capabilities : Capabilities} {mode : AccessMode}
    (given : (capabilities.port? mode).isSome = true) : capabilities.supports mode = true := by
  obtain ⟨port, found⟩ := Option.isSome_iff_exists.mp given
  by_contra unsupported
  have absent : mode ∉ capabilities.ports.keys := by
    simpa [supports, OrderedMap.contains] using unsupported
  rw [port?, OrderedMap.get?_eq_none_iff.mpr absent] at found
  cases found

namespace Vendor

/-! ### The built-in profiles -/

theorem knowsSequences_profile (vendor : Vendor) (settings : Settings) :
    ((vendor.profile settings).knowsSequences && vendor.capabilities.sequences) =
      vendor.capabilities.sequences := by
  cases vendor <;> rfl

theorem isSome_schemasQuery?_profile (vendor : Vendor) (settings : Settings) :
    (vendor.profile settings).schemasQuery?.isSome =
      (vendor.profile settings).capabilities.schemas := by
  cases vendor <;> rfl

/-- No vendor writes the substitute of a boolean type as it would write the type. -/
theorem booleanFlag_ne_boolean (vendor : Vendor) :
    vendor.tokens.booleanFlag ≠ vendor.tokens.boolean := by
  cases vendor <;> decide

/-- The profiles of all vendors are consistent, whatever a connection sets. -/
theorem consistent_profile (vendor : Vendor) (settings : Settings) :
    (vendor.profile settings).Consistent where
  sequences _ _ member := by
    rw [Profile.isSome_of_mem_sequenceQueries member, profile_sequences, knowsSequences_profile]
  schemas := vendor.isSome_schemasQuery?_profile settings
  booleans _ keys withName withLineBreak kind := by
    apply Profile.define_boolean_eq_iff _ kind
    rw [profile_tokens]
    exact vendor.booleanFlag_ne_boolean
  -- The last two are true of every profile, whoever makes it.
  unlocking _ released := Profile.isSome_lockTables? released
  ports _ given := Capabilities.supports_of_isSome_port? given

end Vendor

/-! ### The attribute that changes a flag -/

namespace Attributes

/-- What the attributes say about a key: the value of the first entry whose key is the same in any
case. -/
inductive Says (attributes : Attributes) (key : String) : Option String → Prop
  | first {before after : List (String × String)} {spelling value : String} :
    attributes.entries = before ++ (spelling, value) :: after →
    equalIgnoringCase spelling key = true →
    (∀ entry ∈ before, equalIgnoringCase entry.1 key = false) →
    Says attributes key (some value)
  | nothing : (∀ entry ∈ attributes.entries, equalIgnoringCase entry.1 key = false) →
    Says attributes key none

theorem value?_eq_iff (attributes : Attributes) (key : String) (said : Option String) :
    attributes.value? key = said ↔ attributes.Says key said := by
  constructor
  · intro found
    cases said with
    | none =>
      apply Says.nothing
      simpa [value?, OrderedMap.findKey?] using found
    | some value =>
      rw [value?, OrderedMap.findKey?, Option.map_eq_some_iff] at found
      obtain ⟨⟨spelling, same⟩, search, rfl⟩ := found
      obtain ⟨spelled, before, after, split, others⟩ := List.find?_eq_some_iff_append.mp search
      refine .first split spelled ?_
      intro entry member
      simpa using others entry member
  · rintro (⟨split, spelled, others⟩ | absent)
    · have search : attributes.entries.find? (fun entry => equalIgnoringCase entry.1 key) =
          some (_, _) :=
        List.find?_eq_some_iff_append.mpr ⟨spelled, _, _, split, by simpa using others⟩
      rw [value?, OrderedMap.findKey?, search, Option.map_some]
    · simpa [value?, OrderedMap.findKey?] using absent

end Attributes

namespace Vendor

/-- Whether there is a boolean type under some attributes: what they say about it, and if they say
nothing what the vendor says. -/
inductive BooleanSetting (vendor : Vendor) (attributes : Attributes) : Bool → Prop
  | given {value : String} : attributes.Says CommonOptions.booleanTypeKey (some value) →
    BooleanSetting vendor attributes (Attributes.isYes value)
  | assumed : attributes.Says CommonOptions.booleanTypeKey none →
    BooleanSetting vendor attributes vendor.capabilities.booleanType

/-- The capability of a configured profile is the setting, whether the attributes have one or not.
-/
theorem booleanSetting_iff (vendor : Vendor) (attributes : Attributes) (supported : Bool) :
    vendor.BooleanSetting attributes supported ↔
      (vendor.configure attributes).result.capabilities.booleanType = supported := by
  -- Every vendor takes the capability from the options in the same way.
  have flag : (vendor.configure attributes).result.capabilities.booleanType =
      (attributes.flag? CommonOptions.booleanTypeKey).getD vendor.capabilities.booleanType := by
    cases vendor <;> rfl
  rw [flag, Attributes.flag?]
  constructor
  · rintro (said | unsaid)
    · rw [(attributes.value?_eq_iff _ _).mpr said, Option.map_some, Option.getD_some]
    · rw [(attributes.value?_eq_iff _ _).mpr unsaid, Option.map_none, Option.getD_none]
  · rintro rfl
    cases found : attributes.value? CommonOptions.booleanTypeKey with
    | none =>
      rw [Option.map_none, Option.getD_none]
      exact .assumed ((attributes.value?_eq_iff _ _).mp found)
    | some value =>
      rw [Option.map_some, Option.getD_some]
      exact .given ((attributes.value?_eq_iff _ _).mp found)

end Vendor

/-! ### The built-in registry -/

namespace Registry

/-- A query that is accepted means a vendor, and leads to the profile of this vendor. -/
theorem exists_leads_builtin {query : String} (accepted : builtin.contains query = true) :
    ∃ vendor, Vendor.ofName? (Text.trim query) = some vendor ∧
      builtin.Leads query vendor.configure := by
  obtain ⟨constructor, found⟩ := Option.isSome_iff_exists.mp accepted
  have leads := (leads_iff builtin query constructor).mpr found
  obtain ⟨vendor, named, rfl⟩ := (resolves_builtinHistory_iff query constructor).mp
    ((refines_after builtinHistory).known query constructor |>.mp leads)
  exact ⟨vendor, named, leads⟩

/-- The profile that the built-in registry makes for a tag or an alias, from any attributes, writes
exactly what it says it supports; and whether it says so of booleans is decided by the attributes,
or by the vendor if they say nothing. -/
theorem consistent_create (query : String) (attributes : Attributes)
    (accepted : builtin.contains query = true) :
    ∃ vendor created, Vendor.ofName? (Text.trim query) = some vendor ∧
      builtin.create query attributes = .ok created ∧ created.result.Consistent ∧
      ∀ supported, vendor.BooleanSetting attributes supported ↔
        created.result.capabilities.booleanType = supported := by
  obtain ⟨vendor, named, -, makes⟩ := exists_leads_builtin accepted
  refine ⟨vendor, _, named, makes attributes, ?_, ?_⟩
  · exact vendor.consistent_profile (.ofAttributes attributes)
  · exact vendor.booleanSetting_iff attributes

/-- An alias in any case, with an attribute that gives the vendor a boolean type; a later spelling
of the same attribute does not count. -/
theorem consistent_create_mariaDb :
    let attributes : Attributes := .ofList
      [("quote_all_fields", "Y"), ("supports_boolean_data_type", " yes "),
        ("SUPPORTS_BOOLEAN_DATA_TYPE", "N")]
    builtin.contains " MariaDB\n" = true ∧ Vendor.mySql.capabilities.booleanType = false ∧
      ∃ created, builtin.create " MariaDB\n" attributes = .ok created ∧
        created.result.Consistent ∧ created.result.capabilities.booleanType = true := by
  intro attributes
  have accepted : builtin.contains " MariaDB\n" = true := by decide +kernel
  have said : attributes.Says CommonOptions.booleanTypeKey (some " yes ") := by
    rw [← Attributes.value?_eq_iff]
    decide +kernel
  have yes : Attributes.isYes " yes " = true := by decide +kernel
  obtain ⟨vendor, created, -, made, consistent, setting⟩ :=
    consistent_create " MariaDB\n" attributes accepted
  refine ⟨accepted, rfl, created, made, consistent, ?_⟩
  rw [← setting, ← yes]
  exact .given said

end Registry

end VendorSql
