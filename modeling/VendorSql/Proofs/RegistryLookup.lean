import VendorSql.Proofs.Lowercase
import VendorSql.Registry

/-!
# Which tags lead to their constructors

A constructor is registered under its tag in lowercase, and looked for under the query without the
blanks around it, in lowercase. The two agree on every tag without blanks around it, whatever its
letters, and such a tag is always found, also where it is an alias of a vendor. A tag with blanks
around it is listed like any other, but no query reads its entry, so whether and where such a query
leads is decided by the other entries alone.
-/
namespace VendorSql

namespace Registry

/-! ### Leading to a constructor -/

/-- Whether a query is answered by a constructor: it is known, and from any attributes the profile
is built by that constructor. -/
def Leads (registry : Registry) (query : String) (constructor : Constructor) : Prop :=
  registry.contains query = true ∧ ∀ attributes, registry.create query attributes =
    .ok {
      result := (constructor attributes).result
      events := (constructor attributes).events ++
        [.createdProfile query (constructor attributes).result.name] }

theorem leads_iff (registry : Registry) (query : String) (constructor : Constructor) :
    registry.Leads query constructor ↔ registry.lookup? query = some constructor := by
  unfold Leads contains create
  cases registry.lookup? query with
  | none => simp
  | some found =>
    simp only [Option.isSome_some, true_and, Except.ok.injEq, Traced.mk.injEq, Option.some.injEq]
    constructor
    · intro same
      funext attributes
      obtain ⟨result, events⟩ := same attributes
      rw [result] at events
      exact congrArg₂ Traced.mk result (List.append_cancel_right events)
    · rintro rfl attributes
      exact ⟨rfl, rfl⟩

/-- The registries that come about by registering tags, from nothing or from the built-in ones. -/
inductive Reachable : Registry → Prop
  | empty : Reachable .empty
  | builtin : Reachable .builtin
  | register {registry : Registry} (tag : String) (constructor : Constructor) :
    Reachable registry → Reachable (registry.register tag constructor)

/-- The registry without the entry of a tag. -/
def without (registry : Registry) (tag : String) : Registry :=
  ⟨registry.constructors.erase tag⟩

/-! ### The keys that are read -/

theorem trim_tag (vendor : Vendor) : Text.trim vendor.tag = vendor.tag := by
  cases vendor <;> decide +kernel

theorem lower_tag (vendor : Vendor) : Text.lower vendor.tag = vendor.tag := by
  cases vendor <;> decide +kernel

/-- A lookup reads no key with blanks around it. -/
theorem lookup?_congr {left right : Registry}
    (same : ∀ key, Text.trim key = key → left.constructors.get? key = right.constructors.get? key)
    (query : String) : left.lookup? query = right.lookup? query := by
  have key : Text.trim (Text.lower (Text.trim query)) = Text.lower (Text.trim query) :=
    Text.trim_lower_eq_self_iff.mpr (Text.trim_trim query)
  have tag (vendor : Vendor) := same vendor.tag (trim_tag vendor)
  simp only [lookup?, same _ key, tag]

/-- The entry of a tag with blanks around it is never read. -/
theorem lookup?_register_of_blank (registry : Registry) {tag : String}
    (blank : Text.trim tag ≠ tag) (constructor : Constructor) (query : String) :
    (registry.register tag constructor).lookup? query = registry.lookup? query := by
  refine lookup?_congr (fun key trimmed => ?_) query
  have other : key ≠ Text.lower tag := by
    rintro rfl
    exact blank (Text.trim_lower_eq_self_iff.mp trimmed)
  rw [register, OrderedMap.get?_insert, if_neg other]

/-- An entry with blanks around its tag is never looked up. -/
theorem lookup?_without_of_blank (registry : Registry) {tag : String}
    (blank : Text.trim tag ≠ tag) (query : String) :
    (registry.without tag).lookup? query = registry.lookup? query := by
  refine lookup?_congr (fun key trimmed => ?_) query
  have other : key ≠ tag := by
    rintro rfl
    exact blank trimmed
  exact OrderedMap.get?_erase _ other

theorem lookup?_of_get? {registry : Registry} {query : String} {constructor : Constructor}
    (found : registry.constructors.get? (Text.lower (Text.trim query)) = some constructor) :
    registry.lookup? query = some constructor := by
  simp only [lookup?, found]

/-- A tag without blanks around it is found where it has just been registered. -/
theorem lookup?_register_of_trimmed (registry : Registry) {tag : String}
    (trimmed : Text.trim tag = tag) (constructor : Constructor) :
    (registry.register tag constructor).lookup? tag = some constructor := by
  apply lookup?_of_get?
  rw [trimmed, register, OrderedMap.get?_insert, if_pos rfl]

/-! ### After any history -/

theorem mem_entries_register (registry : Registry) (tag : String) (constructor : Constructor) :
    (Text.lower tag, constructor) ∈ (registry.register tag constructor).constructors.entries := by
  rw [← OrderedMap.get?_eq_some_iff, register, OrderedMap.get?_insert, if_pos rfl]

theorem tags_register (registry : Registry) (tag : String) (constructor : Constructor)
    {listed : String} (member : listed ∈ (registry.register tag constructor).tags) :
    listed ∈ registry.tags ∨ listed = Text.lower tag := by
  rw [tags, register, OrderedMap.keys_insert] at member
  split at member
  · exact .inl member
  · simpa [tags] using member

theorem tags_builtin : Registry.builtin.tags = Vendor.all.map Vendor.tag := by
  decide +kernel

/-- Tags are listed in lowercase. -/
theorem Reachable.lower_tag {registry : Registry} (reachable : registry.Reachable) :
    ∀ tag ∈ registry.tags, Text.lower tag = tag := by
  induction reachable with
  | empty => simp [tags, Registry.empty, OrderedMap.empty, OrderedMap.keys]
  | builtin =>
    rw [tags_builtin]
    intro tag member
    obtain ⟨vendor, _, rfl⟩ := List.mem_map.mp member
    exact Registry.lower_tag vendor
  | register tag constructor _ ih =>
    intro listed member
    rcases tags_register _ tag constructor member with earlier | rfl
    · exact ih listed earlier
    · exact Text.lower_lower tag

/-- An entry whose tag has no blanks around it is found by its tag. -/
theorem lookup?_of_mem {registry : Registry} (reachable : registry.Reachable) {tag : String}
    {constructor : Constructor} (listed : (tag, constructor) ∈ registry.constructors.entries)
    (trimmed : Text.trim tag = tag) : registry.lookup? tag = some constructor := by
  apply lookup?_of_get?
  rw [trimmed, reachable.lower_tag tag (List.mem_map_of_mem (f := Prod.fst) listed)]
  exact OrderedMap.get?_eq_some_iff.mpr listed

/-- A tag that is registered or listed leads to its own constructor exactly if it has no blanks
around it, or if it would lead there without its own entry too. -/
theorem leads_own_iff {registry : Registry} (reachable : registry.Reachable) (tag : String)
    (constructor : Constructor) :
    ((registry.register tag constructor).Leads tag constructor ↔
      Text.trim tag = tag ∨ registry.Leads tag constructor) ∧
    ((tag, constructor) ∈ registry.constructors.entries →
      (registry.Leads tag constructor ↔
        Text.trim tag = tag ∨ (registry.without tag).Leads tag constructor)) := by
  simp only [leads_iff]
  by_cases trimmed : Text.trim tag = tag
  · simp only [trimmed, true_or, iff_true]
    exact ⟨lookup?_register_of_trimmed registry trimmed constructor,
      fun listed => lookup?_of_mem reachable listed trimmed⟩
  · simp only [trimmed, false_or, lookup?_register_of_blank registry trimmed,
      lookup?_without_of_blank registry trimmed, implies_true, and_self]

/-- A tag whose last letter changes with its place is found under the form it is listed in. -/
theorem leads_own_sigma :
    let registry := builtin.register "ΟΔΟΣ" Vendor.mySql.configure
    registry.Reachable ∧ ("οδος", Vendor.mySql.configure) ∈ registry.constructors.entries ∧
      registry.Leads "οδος" Vendor.mySql.configure := by
  intro registry
  have reachable : registry.Reachable := .register _ _ .builtin
  have listed : ("οδος", Vendor.mySql.configure) ∈ registry.constructors.entries := by
    have lower : Text.lower "ΟΔΟΣ" = "οδος" := by decide +kernel
    exact lower ▸ mem_entries_register builtin "ΟΔΟΣ" _
  exact ⟨reachable, listed,
    ((leads_own_iff reachable "οδος" _).2 listed).mpr (.inl (by decide +kernel))⟩

/-- A tag with blanks around it is registered and listed, and is not found. -/
theorem not_leads_blank :
    let registry := builtin.register " h2 " Vendor.generic.configure
    registry.Reachable ∧ (" h2 ", Vendor.generic.configure) ∈ registry.constructors.entries ∧
      registry.contains " h2 " = false ∧ ¬registry.Leads " h2 " Vendor.generic.configure := by
  intro registry
  have listed : (" h2 ", Vendor.generic.configure) ∈ registry.constructors.entries := by
    have lower : Text.lower " h2 " = " h2 " := by decide +kernel
    exact lower ▸ mem_entries_register builtin " h2 " _
  have absent : registry.contains " h2 " = false := by decide +kernel
  refine ⟨.register _ _ .builtin, listed, absent, fun leads => ?_⟩
  rw [leads.1] at absent
  cases absent

end Registry

end VendorSql
