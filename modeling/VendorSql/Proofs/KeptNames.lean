import VendorSql.Introspection
import VendorSql.Proofs.IdentifierReading
import VendorSql.Proofs.Uppercase

/-!
# Names that quoting leaves alone

Quoting changes a name at most once. What it has put between quotes stands between quotes, whatever
the quotes are, since there is something in between; and a name in the forced case is in the forced
case already, so the second time it is found plain and not reserved as it was the first time. A name
that has been quoted can therefore be given to every operation that quotes its names.
-/
namespace VendorSql

theorem IdentifierQuotes.double_ne_nil (closing : List Char) {text : List Char}
    (present : text ≠ []) : double closing text ≠ [] := by
  unfold double
  split
  next => exact present
  next some =>
    cases text with
    | nil => exact absurd rfl present
    | cons c rest =>
      rw [doubleFrom]
      split
      · simp [some]
      · exact List.cons_ne_nil _ _

/-- An identifier in the forced case is left as it is. -/
@[simp] theorem CommonOptions.foldCase_foldCase (options : CommonOptions) (name : String) :
    options.foldCase (options.foldCase name) = options.foldCase name := by
  cases lower : options.forceLower with
  | true => simp only [foldCase, lower, if_true, Text.lower_lower]
  | false =>
    cases upper : options.forceUpper with
    | true => simp only [foldCase, lower, upper, Bool.false_eq_true, if_false, if_true,
        Text.upper_upper]
    | false => simp only [foldCase, lower, upper, Bool.false_eq_true, if_false]

namespace Profile

/-- A name that quoting does not change: it is empty, stands between quotes, or is a plain
identifier in the forced case that need not be quoted. -/
def Kept (profile : Profile) (name : String) : Prop :=
  name = "" ∨ profile.quotes.encloses name = true ∨
    profile.options.foldCase name = name ∧ profile.options.quoteAll = false ∧
      profile.isReserved name = false ∧ isPlainIdentifier name = true

variable (profile : Profile)

theorem encloses_quoteIdentifier {name : String} (present : name ≠ "") :
    profile.quotes.encloses (profile.quoteIdentifier name) = true := by
  refine (profile.quotes.encloses_iff _).mpr ⟨_, ?_, rfl⟩
  rw [Ne, ← String.toList_eq_nil_iff, String.toList_ofList]
  rw [Ne, ← String.toList_eq_nil_iff] at present
  exact IdentifierQuotes.double_ne_nil _ present

theorem quoteName_of_kept {name : String} (kept : profile.Kept name) :
    profile.quoteName name = name := by
  rcases kept with rfl | enclosed | ⟨same, free, unreserved, plain⟩
  · rfl
  · exact quoteName_of_encloses enclosed
  · simp [quoteName, same, free, unreserved, plain]

/-- Whatever the name and the quotes, quoting it again would change nothing. -/
theorem kept_quoteName (name : String) : profile.Kept (profile.quoteName name) := by
  by_cases empty : name = ""
  · exact .inl (by simp [quoteName, empty])
  cases enclosed : profile.quotes.encloses name with
  | true =>
    rw [quoteName_of_encloses enclosed]
    exact .inr (.inl enclosed)
  | false =>
    have folded : profile.options.foldCase name ≠ "" := by
      rwa [Ne, profile.options.foldCase_eq_empty_iff]
    rw [quoteName_of_bare enclosed, quoteFolded, if_neg folded]
    split
    next => exact .inr (.inl (profile.encloses_quoteIdentifier folded))
    -- What is not quoted has been folded, and all that was asked was asked of the folded name.
    next unquoted =>
      simp only [Bool.or_eq_true, Bool.not_eq_true', not_or, Bool.not_eq_true,
        Bool.not_eq_false] at unquoted
      exact .inr (.inr ⟨profile.options.foldCase_foldCase name, unquoted.1.1, unquoted.1.2,
        unquoted.2⟩)

/-- The names that quoting does not change are the kept ones and no others. -/
theorem quoteName_eq_self_iff (name : String) :
    profile.quoteName name = name ↔ profile.Kept name := by
  constructor
  · intro same
    rw [← same]
    exact profile.kept_quoteName name
  · exact profile.quoteName_of_kept

@[simp] theorem quoteName_quoteName (name : String) :
    profile.quoteName (profile.quoteName name) = profile.quoteName name :=
  profile.quoteName_of_kept (profile.kept_quoteName name)

/-! ### Operations that quote -/

theorem quoteName_eq_empty_iff {name : String} : profile.quoteName name = "" ↔ name = "" := by
  constructor
  · intro same
    by_contra present
    cases enclosed : profile.quotes.encloses name with
    | true => exact present ((quoteName_of_encloses enclosed).symm.trans same)
    | false =>
      have folded : profile.options.foldCase name ≠ "" := by
        rwa [Ne, profile.options.foldCase_eq_empty_iff]
      rw [quoteName_of_bare enclosed, quoteFolded, if_neg folded] at same
      split at same
      -- Nothing stands between the quotes in an empty name.
      next =>
        have between := profile.encloses_quoteIdentifier folded
        simp [same, IdentifierQuotes.encloses] at between
      next => exact folded same
  · rintro rfl
    rfl

theorem nonEmpty_map_quoteName (schema : Option String) :
    nonEmpty (schema.map profile.quoteName) = (nonEmpty schema).map profile.quoteName := by
  cases schema with
  | none => rfl
  | some name =>
    have same : decide (profile.quoteName name ≠ "") = decide (name ≠ "") :=
      decide_eq_decide.mpr (not_congr profile.quoteName_eq_empty_iff)
    simp only [nonEmpty, Option.map_some, Option.filter_some, same]
    split <;> rfl

/-- A schema and a table that are quoted already make the same name. -/
theorem qualifiedName_quoteName (schema : Option String) (table : String) :
    profile.qualifiedName (schema.map profile.quoteName) (profile.quoteName table) =
      profile.qualifiedName schema table := by
  simp only [qualifiedName, nonEmpty_map_quoteName, quoteName_quoteName]
  cases nonEmpty schema with
  | none => rfl
  | some name => simp only [Option.map_some, quoteName_quoteName]

/-- Names that are quoted beforehand lead to the same dialogue. -/
theorem takeBatchId_quoteName (schema : Option String) (table field : String) :
    profile.dialect.takeBatchId (schema.map profile.quoteName) (profile.quoteName table)
        (profile.quoteName field) =
      profile.dialect.takeBatchId schema table field := by
  simp only [Dialect.takeBatchId, Dialect.readNextBatchId, dialect, qualifiedName_quoteName,
    quoteName_quoteName]

end Profile

/-- Quoting is idempotent, whatever the quotes, the options and the reserved words are; and what
quotes the names it is given does the same for names that are quoted already. -/
theorem quoteName_idempotent (profile : Profile) :
    (∀ name, profile.quoteName (profile.quoteName name) = profile.quoteName name) ∧
    (∀ schema table,
      profile.qualifiedName (schema.map profile.quoteName) (profile.quoteName table) =
        profile.qualifiedName schema table) ∧
    ∀ schema table field,
      profile.dialect.takeBatchId (schema.map profile.quoteName) (profile.quoteName table)
          (profile.quoteName field) =
        profile.dialect.takeBatchId schema table field :=
  ⟨profile.quoteName_quoteName, profile.qualifiedName_quoteName, profile.takeBatchId_quoteName⟩

/-- Names between quotes are not folded again, and others are folded to what they were. -/
example :
    let profile := Vendor.postgreSql.profile { common := { forceUpper := true } }
    profile.quoteName "straße" = "STRASSE" ∧ profile.quoteName "order" = "\"ORDER\"" ∧
      profile.quoteName "\"ORDER\"" = "\"ORDER\"" := by
  decide +kernel

end VendorSql
