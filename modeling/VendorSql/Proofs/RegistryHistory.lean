import VendorSql.Proofs.InsertionHistory
import VendorSql.Proofs.RegistryLookup

/-!
# A registry and what was registered

What a registry answers is decided by the registrations that led to it. It lists the tags in
lowercase, each where it was first registered. A query leads to the constructor last registered for
it; only if there is none and the query is an alias of a vendor, it leads to the one last registered
for that vendor. So registering a tag concerns the queries for that tag, and those for its aliases
that have no constructor of their own.
-/
namespace VendorSql

namespace Registry

/-! ### Registrations -/

/-- A tag as it was given, and the constructor that was registered for it. -/
abbrev Registration := String × Constructor

def builtinHistory : List Registration :=
  Vendor.all.map fun vendor => (vendor.tag, vendor.configure)

/-- A registry together with all that was registered in it, the latest last. -/
inductive Recorded : List Registration → Registry → Prop
  | empty : Recorded [] .empty
  | builtin : Recorded builtinHistory .builtin
  | register {history : List Registration} {registry : Registry} (tag : String)
    (constructor : Constructor) : Recorded history registry →
    Recorded (history ++ [(tag, constructor)]) (registry.register tag constructor)

/-- What a query is looked up by. -/
def keyOf (query : String) : String :=
  Text.lower (Text.trim query)

/-- The constructor last registered for a key, under any tag that is the key in lowercase. -/
def latest? (history : List Registration) (key : String) : Option Constructor :=
  (history.reverse.find? fun entry => Text.lower entry.1 == key).map Prod.snd

/-- The constructor that a query means after the registrations of a history: its own, or that of the
vendor it is an alias of. -/
inductive Resolves (history : List Registration) (query : String) : Constructor → Prop
  | own {constructor : Constructor} : latest? history (keyOf query) = some constructor →
    Resolves history query constructor
  | ofVendor {vendor : Vendor} {constructor : Constructor} : latest? history (keyOf query) = none →
    Vendor.ofName? (keyOf query) = some vendor → latest? history vendor.tag = some constructor →
    Resolves history query constructor

/-- A registry answers as the registrations say that led to it. -/
structure Refines (history : List Registration) (registry : Registry) : Prop where
  /-- The tags are listed in lowercase, each once, in the order of their first registrations. -/
  listed : registry.tags = (history.map fun entry => Text.lower entry.1).eraseDups
  /-- A query leads to the constructor it means. -/
  known : ∀ query constructor,
    registry.Leads query constructor ↔ Resolves history query constructor
  /-- A query that means none is reported as it was given. -/
  unknown : ∀ query, (∀ constructor, ¬Resolves history query constructor) →
    ∀ attributes, registry.create query attributes = .error (.unknownVendor query)
  /-- Registering a tag changes no other query, but for an alias of that tag that has no constructor
  of its own. -/
  kept : ∀ tag constructor query, keyOf query ≠ Text.lower tag →
    ¬(latest? history (keyOf query) = none ∧
      ∃ vendor, Vendor.ofName? (keyOf query) = some vendor ∧ vendor.tag = Text.lower tag) →
    ∀ attributes, (registry.register tag constructor).create query attributes =
      registry.create query attributes

/-! ### One more registration -/

theorem latest?_concat (history : List Registration) (tag key : String)
    (constructor : Constructor) :
    latest? (history ++ [(tag, constructor)]) key =
      if key = Text.lower tag then some constructor else latest? history key := by
  by_cases same : key = Text.lower tag
  · simp [latest?, same]
  · have other : Text.lower tag ≠ key := fun equal => same equal.symm
    simp [latest?, same, other]

/-- The registry that several registrations make of the empty one. -/
def after (history : List Registration) : Registry :=
  history.foldl (fun registry entry => registry.register entry.1 entry.2) empty

theorem after_concat (history : List Registration) (tag : String) (constructor : Constructor) :
    after (history ++ [(tag, constructor)]) = (after history).register tag constructor := by
  rw [after, List.foldl_append]
  rfl

/-- What was registered determines the registry. -/
theorem Recorded.eq_after {history : List Registration} {registry : Registry}
    (recorded : Recorded history registry) : registry = after history := by
  induction recorded with
  | empty => rfl
  | builtin => rfl
  | register tag constructor _ ih => rw [after_concat, ih]

/-! ### All registrations -/

/-- The constructors are those of the registrations, inserted one after another. -/
theorem constructors_after (history : List Registration) :
    (after history).constructors =
      .ofList (history.map fun entry => (Text.lower entry.1, entry.2)) := by
  induction history using List.reverseRecOn with
  | nil => rfl
  | append_singleton history entry ih =>
    rw [after_concat, List.map_append, List.map_singleton, OrderedMap.ofList_concat, ← ih]
    rfl

theorem tags_after (history : List Registration) :
    (after history).tags = (history.map fun entry => Text.lower entry.1).eraseDups := by
  rw [tags, constructors_after, OrderedMap.keys_ofList, List.map_map]
  rfl

theorem get?_after (history : List Registration) (key : String) :
    (after history).constructors.get? key = latest? history key := by
  rw [constructors_after, OrderedMap.get?_ofList, ← List.map_reverse, List.find?_map,
    Option.map_map]
  rfl

/-- A lookup finds exactly what the query means: its own constructor, else that of the vendor behind
the alias. -/
theorem lookup?_after_iff (history : List Registration) (query : String)
    (constructor : Constructor) :
    (after history).lookup? query = some constructor ↔ Resolves history query constructor := by
  have key : Text.lower (Text.trim query) = keyOf query := rfl
  simp only [lookup?, get?_after, key]
  -- The key itself comes first; only if nothing is registered for it an alias counts.
  cases own : latest? history (keyOf query) with
  | some found =>
    constructor
    · rintro ⟨⟩
      exact .own own
    · rintro (same | ⟨none, _, _⟩)
      · exact own.symm.trans same
      · rw [own] at none
        cases none
  | none =>
    constructor
    · intro found
      obtain ⟨vendor, named, registered⟩ := Option.bind_eq_some_iff.mp found
      exact .ofVendor own named registered
    · rintro (found | ⟨_, named, registered⟩)
      · rw [own] at found
        cases found
      · exact Option.bind_eq_some_iff.mpr ⟨_, named, registered⟩

/-- Registering a tag leaves the lookups alone that do not read its entry. -/
theorem lookup?_register_of_unread (registry : Registry) {tag query : String}
    (constructor : Constructor) (other : keyOf query ≠ Text.lower tag)
    (unread : ∀ vendor, registry.constructors.get? (keyOf query) = none →
      Vendor.ofName? (keyOf query) = some vendor → vendor.tag ≠ Text.lower tag) :
    (registry.register tag constructor).lookup? query = registry.lookup? query := by
  have key : (registry.register tag constructor).constructors.get? (keyOf query) =
      registry.constructors.get? (keyOf query) := by
    rw [register, OrderedMap.get?_insert, if_neg other]
  rw [keyOf] at key unread
  simp only [lookup?, key]
  -- Neither of the two keys that are looked up is the tag.
  cases own : registry.constructors.get? (Text.lower (Text.trim query)) with
  | some found => rfl
  | none =>
    cases named : Vendor.ofName? (Text.lower (Text.trim query)) with
    | none => rfl
    | some vendor =>
      simp only [Option.bind_some, register, OrderedMap.get?_insert,
        if_neg (unread vendor own named)]

theorem create_congr {left right : Registry} {query : String}
    (same : left.lookup? query = right.lookup? query) (attributes : Attributes) :
    left.create query attributes = right.create query attributes := by
  simp only [create, same]

theorem create_of_lookup?_none {registry : Registry} {query : String}
    (absent : registry.lookup? query = none) (attributes : Attributes) :
    registry.create query attributes = .error (.unknownVendor query) := by
  simp only [create, absent]

/-! ### The built-in registry -/

theorem latest?_builtinHistory (key : String) :
    latest? builtinHistory key =
      (Vendor.all.reverse.find? fun vendor => vendor.tag == key).map Vendor.configure := by
  simp only [latest?, builtinHistory, ← List.map_reverse, List.find?_map, Option.map_map,
    Function.comp_def, lower_tag]

theorem latest?_builtinHistory_tag (vendor : Vendor) :
    latest? builtinHistory vendor.tag = some vendor.configure := by
  have first : (Vendor.all.reverse.find? fun other => other.tag == vendor.tag) = some vendor := by
    cases vendor <;> decide
  rw [latest?_builtinHistory, first, Option.map_some]

theorem eq_tag_of_latest?_builtinHistory {key : String} {constructor : Constructor}
    (found : latest? builtinHistory key = some constructor) :
    ∃ vendor : Vendor, key = vendor.tag := by
  rw [latest?_builtinHistory] at found
  obtain ⟨vendor, search, _⟩ := Option.map_eq_some_iff.mp found
  have same : vendor.tag = key := by simpa using List.find?_some search
  exact ⟨vendor, same.symm⟩

theorem ofName?_tag (vendor : Vendor) : Vendor.ofName? vendor.tag = some vendor := by
  cases vendor <;> decide +kernel

/-- A name is asked for in lowercase anyway. -/
theorem ofName?_keyOf (query : String) :
    Vendor.ofName? (keyOf query) = Vendor.ofName? (Text.trim query) := by
  rw [Vendor.ofName?, keyOf, Text.lower_lower, ← Vendor.ofName?]

/-- In the built-in registry a query means the vendor that its name or alias stands for. -/
theorem resolves_builtinHistory_iff (query : String) (constructor : Constructor) :
    Resolves builtinHistory query constructor ↔
      ∃ vendor, Vendor.ofName? (Text.trim query) = some vendor ∧
        constructor = vendor.configure := by
  rw [← ofName?_keyOf]
  constructor
  -- Only tags have a constructor of their own, and a tag names its vendor as well.
  · rintro (found | ⟨_, named, found⟩)
    · obtain ⟨vendor, same⟩ := eq_tag_of_latest?_builtinHistory found
      rw [same, latest?_builtinHistory_tag] at found
      exact ⟨vendor, same ▸ ofName?_tag vendor, (Option.some.inj found).symm⟩
    · rw [latest?_builtinHistory_tag] at found
      exact ⟨_, named, (Option.some.inj found).symm⟩
  · rintro ⟨vendor, named, rfl⟩
    cases own : latest? builtinHistory (keyOf query) with
    | none => exact .ofVendor own named (latest?_builtinHistory_tag vendor)
    | some found =>
      obtain ⟨other, same⟩ := eq_tag_of_latest?_builtinHistory own
      rw [same, ofName?_tag] at named
      cases named
      exact .own (same ▸ latest?_builtinHistory_tag vendor)

/-! ### Any registry -/

theorem refines_after (history : List Registration) : Refines history (after history) := by
  refine ⟨tags_after history, ?_, ?_, ?_⟩
  · intro query constructor
    rw [leads_iff, lookup?_after_iff]
  · intro query unresolved
    apply create_of_lookup?_none
    rw [Option.eq_none_iff_forall_ne_some]
    intro constructor found
    exact unresolved constructor ((lookup?_after_iff history query constructor).mp found)
  · intro tag constructor query other unread
    apply create_congr
    apply lookup?_register_of_unread _ _ other
    intro vendor own named same
    rw [get?_after] at own
    exact unread ⟨own, vendor, named, same⟩

/-- Every registry answers as the registrations say that led to it, and the built-in one knows
exactly the names and aliases of the vendors. -/
theorem Recorded.refines {history : List Registration} {registry : Registry}
    (recorded : Recorded history registry) :
    Refines history registry ∧ ∀ query,
      (∀ vendor, Vendor.ofName? (Text.trim query) = some vendor →
        Registry.builtin.Leads query vendor.configure) ∧
      (Vendor.ofName? (Text.trim query) = none → ∀ attributes,
        Registry.builtin.create query attributes = .error (.unknownVendor query)) := by
  have builtinRefines : Refines builtinHistory .builtin := refines_after builtinHistory
  constructor
  · rw [recorded.eq_after]
    exact refines_after history
  · intro query
    constructor
    · -- An alias of a built-in registry is never shadowed, so the vendor is all that counts.
      intro vendor named
      rw [builtinRefines.known, resolves_builtinHistory_iff]
      exact ⟨vendor, named, rfl⟩
    · intro unnamed
      apply builtinRefines.unknown
      intro constructor resolved
      obtain ⟨vendor, named, _⟩ := (resolves_builtinHistory_iff query constructor).mp resolved
      rw [unnamed] at named
      cases named

/-- A tag that is registered takes the queries for it away from the vendor it is an alias of, and
leaves the other aliases alone. -/
theorem refines_shadowed_alias :
    let history := builtinHistory ++ [("PG", Vendor.mySql.configure)]
    let registry := builtin.register "PG" Vendor.mySql.configure
    Recorded history registry ∧
      registry.tags = ["mssql", "postgresql", "mysql", "generic", "pg"] ∧
      registry.Leads " Pg\n" Vendor.mySql.configure ∧
      registry.Leads "Postgres" Vendor.postgreSql.configure := by
  intro history registry
  have recorded : Recorded history registry := .register _ _ .builtin
  obtain ⟨refines, _⟩ := recorded.refines
  have pg : keyOf " Pg\n" = Text.lower "PG" := by decide +kernel
  have postgres : keyOf "Postgres" = "postgres" := by decide +kernel
  have shadow : Text.lower "PG" = "pg" := by decide +kernel
  refine ⟨recorded, ?_, ?_, ?_⟩
  · rw [refines.listed]
    decide +kernel
  · apply (refines.known _ _).mpr
    apply Resolves.own
    rw [latest?_concat, if_pos pg]
  · have named : Vendor.ofName? (keyOf "Postgres") = some .postgreSql := by decide +kernel
    apply (refines.known _ _).mpr
    refine Resolves.ofVendor ?_ named ?_
    · rw [latest?_concat, shadow, postgres, if_neg (by decide), latest?_builtinHistory]
      rfl
    · rw [latest?_concat, shadow, if_neg (by decide), latest?_builtinHistory_tag]

end Registry

end VendorSql
