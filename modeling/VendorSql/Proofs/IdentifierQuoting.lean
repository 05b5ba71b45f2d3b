import VendorSql.Vendor.Builtin
import Mathlib.Data.List.Infix

/-!
# Names as identifiers

A name is safe in a statement if the vendor reads it as one identifier: it is plain and not
reserved, or it stands between the identifier quotes and every closing quote inside is doubled.
Whatever the name, quoting makes a safe identifier of it, with one exception: a name that already
begins with the opening and ends with the closing quote is taken as it is, so it is safe only if the
closing quotes inside it are doubled already.
-/
namespace VendorSql

/-- Every occurrence of the quote, read from the left, is followed by a second one. -/
inductive Doubled (quote : List Char) : List Char → Prop
  | nil : Doubled quote []
  | twice {rest} : Doubled quote rest → Doubled quote (quote ++ quote ++ rest)
  | other {c rest} : ¬quote <+: c :: rest → Doubled quote rest → Doubled quote (c :: rest)

/-- A quote of one character is followed by its double, and any other character by anything. -/
theorem doubled_cons_iff {quote c : Char} {rest : List Char} :
    Doubled [quote] (c :: rest) ↔
      if c = quote then ∃ tail, rest = quote :: tail ∧ Doubled [quote] tail
      else Doubled [quote] rest := by
  -- A pair is taken off a text that begins with the quote, else one character.
  split
  next same =>
    subst same
    constructor
    · intro doubled
      cases doubled with
      | twice tail => exact ⟨_, rfl, tail⟩
      | other lone _ => exact absurd (List.prefix_append [c] rest) lone
    · rintro ⟨tail, rfl, doubled⟩
      exact .twice doubled
  next differ =>
    constructor
    · intro doubled
      cases doubled with
      | twice _ => exact absurd rfl differ
      | other _ tail => exact tail
    · refine .other ?_
      rintro ⟨tail, equal⟩
      exact differ (List.cons.inj equal).1.symm

namespace IdentifierQuotes

/-- A text between the quotes in which no closing quote stands alone. -/
def IsQuoted (quotes : IdentifierQuotes) (text : String) : Prop :=
  ∃ body, text = quotes.opening ++ body ++ quotes.closing ∧
    Doubled quotes.closing.toList body.toList

/-! ### Doubling -/

theorem double_single (quote : Char) (text : List Char) :
    double [quote] text = text.flatMap fun c => if c = quote then [quote, quote] else [c] := by
  simp only [double, List.cons_ne_nil, if_false]
  induction text with
  | nil => rfl
  | cons c text ih =>
    by_cases same : c = quote
    · simp [doubleFrom, same, ih]
    · have other : ¬quote = c := fun equal => same equal.symm
      simp [doubleFrom, same, other, ih]

theorem doubled_double (quote : Char) (text : List Char) :
    Doubled [quote] (double [quote] text) := by
  rw [double_single]
  induction text with
  | nil => exact .nil
  | cons c text ih =>
    by_cases same : c = quote
    · simpa [same] using Doubled.twice ih
    · simpa [same, doubled_cons_iff] using ih

theorem isQuoted_enclose {quotes : IdentifierQuotes} {quote : Char}
    (single : quotes.closing.toList = [quote]) (name : String) :
    quotes.IsQuoted (quotes.enclose name) := by
  refine ⟨String.ofList (double quotes.closing.toList name.toList), rfl, ?_⟩
  rw [single, String.toList_ofList]
  exact doubled_double quote name.toList

/-! ### Names that stand between quotes -/

/-- A name stands between quotes exactly if something is left between the two. -/
theorem encloses_iff (quotes : IdentifierQuotes) (name : String) :
    quotes.encloses name = true ↔
      ∃ body, body ≠ "" ∧ name = quotes.opening ++ body ++ quotes.closing := by
  simp only [encloses, Bool.and_eq_true, decide_eq_true_eq, List.isPrefixOf_iff_prefix,
    List.isSuffixOf_iff_suffix]
  constructor
  · rintro ⟨⟨longer, ⟨rest, front⟩⟩, back⟩
    -- The name is longer than both quotes, so they do not overlap.
    have within : quotes.closing.toList <:+ rest := by
      rw [← front] at back longer
      rw [List.length_append] at longer
      exact List.suffix_of_suffix_length_le back (List.suffix_append _ _) (by omega)
    obtain ⟨body, rfl⟩ := within
    refine ⟨String.ofList body, ?_, ?_⟩
    · intro empty
      have none : body = [] := by simpa using congrArg String.toList empty
      rw [← front, none] at longer
      simp at longer
    · apply String.toList_injective
      simp [← front]
  · rintro ⟨body, present, rfl⟩
    have some : 0 < body.toList.length := by
      rw [List.length_pos_iff, Ne, String.toList_eq_nil_iff]
      exact present
    simp only [String.toList_append, List.length_append]
    refine ⟨⟨by omega, ?_⟩, List.suffix_append _ _⟩
    rw [List.append_assoc]
    exact List.prefix_append _ _

end IdentifierQuotes

namespace Profile

/-- A text that is read as one identifier. -/
def IsIdentifier (profile : Profile) (text : String) : Prop :=
  isPlainIdentifier text = true ∧ profile.isReserved text = false ∨ profile.quotes.IsQuoted text

theorem quoteName_of_encloses {profile : Profile} {name : String}
    (enclosed : profile.quotes.encloses name = true) : profile.quoteName name = name := by
  simp only [quoteName, enclosed, if_true]
  split
  next empty => exact empty.symm
  next => rfl

/-- A name that does not stand between quotes is quoted unless it is plain and not reserved. -/
theorem isIdentifier_quoteName {profile : Profile} {quote : Char} {name : String}
    (single : profile.quotes.closing.toList = [quote]) (present : name ≠ "")
    (bare : profile.quotes.encloses name = false) :
    profile.IsIdentifier (profile.quoteName name) := by
  simp only [quoteName, if_neg present, bare, Bool.false_eq_true, if_false]
  split
  next => exact .inr (IdentifierQuotes.isQuoted_enclose single _)
  next unquoted =>
    simp only [Bool.or_eq_true, Bool.not_eq_true', not_or, Bool.not_eq_true,
      Bool.not_eq_false] at unquoted
    exact .inl ⟨unquoted.2, unquoted.1.2⟩

/-- What stands between quotes is an identifier only if its closing quotes are doubled. -/
theorem isIdentifier_between_iff {profile : Profile} {first : Char}
    (unplain : beginsIdentifier first = false) (opening : profile.quotes.opening.toList = [first])
    (body : String) :
    profile.IsIdentifier (profile.quotes.opening ++ body ++ profile.quotes.closing) ↔
      Doubled profile.quotes.closing.toList body.toList := by
  constructor
  · rintro (⟨plain, _⟩ | ⟨inner, equal, doubled⟩)
    -- A plain identifier does not begin with a quote.
    · simp [isPlainIdentifier, isPlainChars, opening, unplain] at plain
    · have same : body = inner := by
        apply String.toList_injective
        simpa using congrArg String.toList equal
      exact same ▸ doubled
  · intro doubled
    exact .inr ⟨body, rfl, doubled⟩

theorem not_isIdentifier_empty {profile : Profile} {first : Char}
    (opening : profile.quotes.opening.toList = [first]) : ¬profile.IsIdentifier "" := by
  rintro (⟨plain, _⟩ | ⟨body, equal, _⟩)
  · simp [isPlainIdentifier, isPlainChars] at plain
  · have none := congrArg String.toList equal
    simp [opening] at none

end Profile

/-- The quotes of a built-in profile are single characters, and no plain identifier begins with
one. -/
theorem Vendor.quotes_single (vendor : Vendor) (settings : Settings) :
    ∃ first quote, beginsIdentifier first = false ∧
      (vendor.profile settings).quotes.opening.toList = [first] ∧
      (vendor.profile settings).quotes.closing.toList = [quote] := by
  cases vendor with
  | sqlServer => exact ⟨'[', ']', by decide +kernel, by simp [profile], by simp [profile]⟩
  | postgreSql => exact ⟨'"', '"', by decide +kernel, by simp [profile], by simp [profile]⟩
  | mySql => exact ⟨'`', '`', by decide +kernel, by simp [profile], by simp [profile]⟩
  | generic => exact ⟨'"', '"', by decide +kernel, by simp [profile], by simp [profile]⟩

/-- Quoting makes one identifier of any name that has characters, unless the name already begins and
ends with the quotes and has a closing quote between them that is not doubled. -/
theorem isIdentifier_quoteName_iff (vendor : Vendor) (attributes : Attributes) (name : String) :
    let profile := (vendor.configure attributes).result
    profile.IsIdentifier (profile.quoteName name) ↔
      name ≠ "" ∧ ∀ body, body ≠ "" →
        name = profile.quotes.opening ++ body ++ profile.quotes.closing →
        Doubled profile.quotes.closing.toList body.toList := by
  intro profile
  obtain ⟨first, quote, unplain, opening, closing⟩ :=
    vendor.quotes_single (.ofAttributes attributes)
  change profile.quotes.opening.toList = [first] at opening
  change profile.quotes.closing.toList = [quote] at closing
  constructor
  · intro identifier
    constructor
    -- The empty name stays empty, and a name between quotes stays what it is.
    · rintro rfl
      exact Profile.not_isIdentifier_empty opening identifier
    · intro body present equal
      have enclosed := (profile.quotes.encloses_iff name).mpr ⟨body, present, equal⟩
      rw [Profile.quoteName_of_encloses enclosed, equal] at identifier
      exact (Profile.isIdentifier_between_iff unplain opening body).mp identifier
  · rintro ⟨present, doubled⟩
    cases enclosed : profile.quotes.encloses name with
    | false => exact Profile.isIdentifier_quoteName closing present enclosed
    | true =>
      obtain ⟨body, inner, equal⟩ := (profile.quotes.encloses_iff name).mp enclosed
      rw [Profile.quoteName_of_encloses enclosed]
      exact .inr ⟨body, equal, doubled body inner equal⟩

/-- A name between quotes with a lone quote inside is left alone, so its rest leaves the
identifier. -/
theorem quoteName_hostile_not_isIdentifier :
    let profile := (Vendor.postgreSql.configure .empty).result
    let name := "\"id\" FROM t; --\""
    name ≠ "" ∧ ¬profile.IsIdentifier (profile.quoteName name) := by
  intro profile name
  refine ⟨by decide, ?_⟩
  have opening : profile.quotes.opening.toList = ['"'] := by decide +kernel
  have closing : profile.quotes.closing.toList = ['"'] := by decide +kernel
  have body : name = profile.quotes.opening ++ "id\" FROM t; --" ++ profile.quotes.closing := rfl
  have enclosed := (profile.quotes.encloses_iff name).mpr ⟨_, by decide, body⟩
  rw [Profile.quoteName_of_encloses enclosed, body,
    Profile.isIdentifier_between_iff (by decide +kernel) opening, closing]
  -- Behind the quote in the middle stands a blank.
  simp [doubled_cons_iff]

end VendorSql
