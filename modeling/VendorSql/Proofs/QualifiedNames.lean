import VendorSql.Proofs.IdentifierReading
import VendorSql.Proofs.LockDiscipline

/-!
# Different tables have different names

A qualified name says which table it is the name of: reading an identifier from it, and behind the
separator another one, yields the schema and the table in the forced case. The first identifier ends
where it should, since no separator begins with a character that could go on with it, and names that
look like two are between quotes. So two tables share a name, and with it a lock, only if they are
the same in the forced case.

Names that stand between quotes already are left alone whatever is between them, so of such names
this is not true.
-/
namespace VendorSql

namespace IdentifierQuotes

/-- Reads a qualified name: one identifier, or a second one behind a separator. -/
def readQualified (opening quote : Char) (separator text : List Char) :
    Option (Option (List Char) × List Char) :=
  (readIdentifier opening quote text).bind fun (first, rest) =>
    if rest = [] then some (none, first)
    else (readIdentifier opening quote (rest.drop separator.length)).map fun (second, _) =>
      (some first, second)

end IdentifierQuotes

theorem BatchCalls.eq_of_lock {tables asked : List String} {sql : String} {calls : List Call}
    {granted : Except GatewayError Unit} (made : BatchCalls tables sql calls)
    (member : .lock asked granted ∈ calls) : asked = tables := by
  cases made with
  | refused error | unanswered error released | answered cursor released =>
    simp only [List.mem_cons, List.not_mem_nil, Call.lock.injEq, reduceCtorEq, or_false] at member
    exact member.1

/-- Two names are the same in the forced case; lowercase goes before uppercase, and without a forced
case every difference counts. -/
inductive CommonOptions.SameName (options : CommonOptions) : String → String → Prop
  | lowered {name name'} : options.forceLower = true → Text.lower name = Text.lower name' →
    SameName options name name'
  | raised {name name'} : options.forceLower = false → options.forceUpper = true →
    Text.upper name = Text.upper name' → SameName options name name'
  | exact {name} : options.forceLower = false → options.forceUpper = false →
    SameName options name name

theorem CommonOptions.sameName_iff (options : CommonOptions) (name name' : String) :
    options.SameName name name' ↔ options.foldCase name = options.foldCase name' := by
  constructor
  · intro same
    cases same with
    | lowered lower same => simpa only [foldCase, lower, if_true] using same
    | raised lower upper same => simpa [foldCase, lower, upper] using same
    | exact _ _ => rfl
  · intro same
    cases lower : options.forceLower with
    | true => exact .lowered lower (by simpa only [foldCase, lower, if_true] using same)
    | false =>
      cases upper : options.forceUpper with
      | true => exact .raised lower upper (by simpa [foldCase, lower, upper] using same)
      | false =>
        have same : name = name' := by simpa [foldCase, lower, upper] using same
        subst same
        exact .exact lower upper

namespace Profile

def Bare (profile : Profile) (schema : Option String) (table : String) : Prop :=
  (∀ name ∈ schema, profile.quotes.encloses name = false) ∧ profile.quotes.encloses table = false

/-- Two tables have the same names, where an empty schema is none. -/
def SameTable (profile : Profile) (schema : Option String) (table : String)
    (schema' : Option String) (table' : String) : Prop :=
  profile.options.SameName table table' ∧
    Option.Rel profile.options.SameName (nonEmpty schema) (nonEmpty schema')

theorem sameTable_iff {profile : Profile} {schema schema' : Option String} {table table' : String} :
    profile.SameTable schema table schema' table' ↔
      profile.options.foldCase table = profile.options.foldCase table' ∧
        (nonEmpty schema).map profile.options.foldCase =
          (nonEmpty schema').map profile.options.foldCase := by
  rw [SameTable, CommonOptions.sameName_iff]
  refine and_congr_right fun _ => ?_
  cases nonEmpty schema <;> cases nonEmpty schema' <;>
    simp [Option.rel_some_some, CommonOptions.sameName_iff]

/-- Quotes of single characters, and a separator apart from what stands in front of it. -/
structure SeparatesWith (profile : Profile) (opening quote : Char) : Prop extends
    profile.QuotesWith opening quote where
  present : profile.separator.toList ≠ []
  apart : ∀ rest, IdentifierQuotes.Apart opening quote (profile.separator.toList ++ rest)

variable {profile : Profile} {opening quote : Char} {schema schema' : Option String}
  {table table' : String}

theorem mem_of_nonEmpty {name : String} (given : nonEmpty schema = some name) : name ∈ schema :=
  (Option.filter_eq_some_iff.mp given).1

/-- The name of a table says which one it is. -/
theorem readQualified_qualifiedName (separates : profile.SeparatesWith opening quote)
    (bare : profile.Bare schema table) :
    IdentifierQuotes.readQualified opening quote profile.separator.toList
        (profile.qualifiedName schema table).toList =
      some ((nonEmpty schema).map fun name => (profile.options.foldCase name).toList,
        (profile.options.foldCase table).toList) := by
  have last := readIdentifier_quoteName separates.toQuotesWith bare.2
    (IdentifierQuotes.apart_nil opening quote)
  rw [List.append_nil] at last
  cases given : nonEmpty schema with
  | none =>
    simp only [qualifiedName, given, IdentifierQuotes.readQualified, last, Option.bind_some,
      if_true, Option.map_none]
  | some name =>
    -- Reading stops at the separator, and what is behind it is the table alone.
    have first := readIdentifier_quoteName separates.toQuotesWith
      (bare.1 name (mem_of_nonEmpty given)) (separates.apart (profile.quoteName table).toList)
    have more : profile.separator.toList ++ (profile.quoteName table).toList ≠ [] :=
      List.append_ne_nil_of_left_ne_nil separates.present _
    simp only [qualifiedName, given, combine, String.toList_append, List.append_assoc,
      IdentifierQuotes.readQualified, first, Option.bind_some, if_neg more, List.drop_left, last,
      Option.map_some]

/-- Equal qualified names are read as the same schema and table. -/
theorem sameTable_of_qualifiedName_eq (separates : profile.SeparatesWith opening quote)
    (bare : profile.Bare schema table) (bare' : profile.Bare schema' table')
    (same : profile.qualifiedName schema table = profile.qualifiedName schema' table') :
    profile.SameTable schema table schema' table' := by
  -- One name is read in one way only, and what is read are both tables.
  have read := readQualified_qualifiedName separates bare
  rw [same, readQualified_qualifiedName separates bare'] at read
  obtain ⟨schemas, tables⟩ := Prod.mk.inj (Option.some.inj read)
  have injective : Function.Injective String.toList := fun _ _ equal =>
    String.toList_injective equal
  refine sameTable_iff.mpr ⟨injective tables.symm, Option.map_injective injective ?_⟩
  rw [Option.map_map, Option.map_map]
  exact schemas.symm

/-- Names that are not between quotes enter by their forced case alone. -/
theorem qualifiedName_of_bare (bare : profile.Bare schema table) :
    profile.qualifiedName schema table =
      match (nonEmpty schema).map profile.options.foldCase with
      | some folded => profile.combine (profile.quoteFolded folded)
          (profile.quoteFolded (profile.options.foldCase table))
      | none => profile.quoteFolded (profile.options.foldCase table) := by
  cases given : nonEmpty schema with
  | none => simp only [qualifiedName, given, Option.map_none, quoteName_of_bare bare.2]
  | some name =>
    simp only [qualifiedName, given, Option.map_some, quoteName_of_bare bare.2,
      quoteName_of_bare (bare.1 name (mem_of_nonEmpty given))]

theorem qualifiedName_eq_iff (separates : profile.SeparatesWith opening quote)
    (bare : profile.Bare schema table) (bare' : profile.Bare schema' table') :
    profile.qualifiedName schema table = profile.qualifiedName schema' table' ↔
      profile.SameTable schema table schema' table' := by
  constructor
  · exact sameTable_of_qualifiedName_eq separates bare bare'
  -- Nothing but the forced case of the names is written.
  · intro same
    obtain ⟨tables, schemas⟩ := sameTable_iff.mp same
    rw [qualifiedName_of_bare bare, qualifiedName_of_bare bare', tables, schemas]

/-- Taking a number asks for one lock, that of the qualified name. -/
theorem lock_takeBatchId {σ : Type} {gateway : Gateway σ} {field : String} {state : σ}
    {tables : List String} {granted : Except GatewayError Unit}
    (made : Call.lock tables granted ∈
      ((profile.dialect.takeBatchId schema table field).run gateway state).calls) :
    tables = [profile.qualifiedName schema table] :=
  (batchCalls_takeBatchId profile.dialect gateway schema table field state
    .finished).eq_of_lock made

end Profile

/-! ### Built-in profiles -/

theorem Vendor.separator_dotted (vendor : Vendor) (settings : Settings) :
    ∃ rest, (vendor.profile settings).separator.toList = '.' :: rest := by
  cases vendor with
  | sqlServer =>
    cases double : settings.doubleSeparator with
    | false => exact ⟨[], by simp [profile, double]⟩
    | true => exact ⟨['.'], by simp [profile, double]⟩
  | postgreSql => exact ⟨[], by simp [profile]⟩
  | mySql => exact ⟨[], by simp [profile]⟩
  | generic => exact ⟨[], by simp [profile]⟩

theorem Vendor.quotes_undotted (vendor : Vendor) (settings : Settings) :
    '.' ∉ (vendor.profile settings).quotes.opening.toList ∧
      '.' ∉ (vendor.profile settings).quotes.closing.toList := by
  cases vendor <;> simp [profile]

/-- Every vendor separates names in a way a reader can follow. -/
theorem Vendor.separates (vendor : Vendor) (settings : Settings) :
    ∃ opening quote, (vendor.profile settings).SeparatesWith opening quote := by
  obtain ⟨first, quote, unplain, opening, closing⟩ := vendor.quotes_single settings
  obtain ⟨rest, separator⟩ := vendor.separator_dotted settings
  obtain ⟨opened, closed⟩ := vendor.quotes_undotted settings
  rw [opening, List.mem_singleton] at opened
  rw [closing, List.mem_singleton] at closed
  have ends : continuesIdentifier '.' = false := by decide +kernel
  refine ⟨first, quote, ⟨opening, closing, unplain⟩, ?_, ?_⟩
  · rw [separator]
    exact List.cons_ne_nil _ _
  · intro later c front
    rw [separator] at front
    cases front
    exact ⟨opened, closed, ends⟩

/-- Two tables have one name exactly if they are the same in the forced case, and only then is there
a lock that taking a number asks for with both of them. -/
theorem qualifiedName_unambiguous (vendor : Vendor) (attributes : Attributes)
    (schema schema' : Option String) (table table' : String) :
    let profile := (vendor.configure attributes).result
    profile.Bare schema table → profile.Bare schema' table' →
      (profile.qualifiedName schema table = profile.qualifiedName schema' table' ↔
        profile.SameTable schema table schema' table') ∧
      ∀ (σ σ' : Type) (gateway : Gateway σ) (gateway' : Gateway σ') state state' field field' tables
        granted granted',
        .lock tables granted ∈
          ((profile.dialect.takeBatchId schema table field).run gateway state).calls →
        .lock tables granted' ∈
          ((profile.dialect.takeBatchId schema' table' field').run gateway' state').calls →
        profile.SameTable schema table schema' table' := by
  intro profile bare bare'
  obtain ⟨opening, quote, separates⟩ := vendor.separates (.ofAttributes attributes)
  change profile.SeparatesWith opening quote at separates
  have named := Profile.qualifiedName_eq_iff separates bare bare'
  refine ⟨named, ?_⟩
  -- What is locked is the qualified name, so two equal locks are two equal names.
  intro σ σ' gateway gateway' state state' field field' tables granted granted' made made'
  have asked := Profile.lock_takeBatchId made
  have asked' := Profile.lock_takeBatchId made'
  exact named.mp (List.singleton_inj.mp (asked.symm.trans asked'))

/-- Names with closing quotes and dots inside, which would be one name if the quotes were not
doubled. -/
theorem qualifiedName_unambiguous_hostile :
    let profile := (Vendor.sqlServer.configure (.ofList
      [(Settings.doubleSeparatorKey, "Y"), (CommonOptions.forceLowerKey, "Y")])).result
    profile.Bare (some "Sales]..[2024") "Batch" ∧ profile.Bare (some "Sales") "2024]..[Batch" ∧
      profile.qualifiedName (some "Sales]..[2024") "Batch" ≠
        profile.qualifiedName (some "Sales") "2024]..[Batch" := by
  intro profile
  have bare : profile.Bare (some "Sales]..[2024") "Batch" :=
    ⟨by rintro _ ⟨⟩; decide +kernel, by decide +kernel⟩
  have bare' : profile.Bare (some "Sales") "2024]..[Batch" :=
    ⟨by rintro _ ⟨⟩; decide +kernel, by decide +kernel⟩
  refine ⟨bare, bare', fun shared => ?_⟩
  have same := (qualifiedName_unambiguous .sqlServer _ _ _ _ _ bare bare').1.mp shared
  have tables := (Profile.sameTable_iff.mp same).1
  exact absurd tables (by decide +kernel)

end VendorSql
