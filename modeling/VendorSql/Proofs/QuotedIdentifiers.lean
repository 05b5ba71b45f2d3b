import VendorSql.Proofs.IdentifierReading

/-!
# Identifiers between quotes

A reader that meets the opening quote passes it, and then goes up to the first closing quote that is
not doubled. What it passes in this way is a name between quotes and nothing else, and each name is
between quotes in one form only. All that counts is that the closing quote is a single character:
the opening one may be any text, the same one or none at all.
-/
namespace VendorSql

namespace IdentifierQuotes

/-- Reads the identifier between quotes with which a text begins: its name, and what stands behind
it. -/
def readQuoted? (quotes : IdentifierQuotes) (text : String) : Option (String × String) :=
  match quotes.closing.toList with
  | [quote] => do
    let inside ← quotes.opening.toList.isPrefixOf? text.toList
    let (name, rest) ← readBody quote inside
    some (String.ofList name, String.ofList rest)
  | _ => none

variable {quotes : IdentifierQuotes} {quote : Char}

theorem toList_enclose (quotes : IdentifierQuotes) (name : String) :
    (quotes.enclose name).toList =
      quotes.opening.toList ++ (double quotes.closing.toList name.toList ++
        quotes.closing.toList) := by
  simp [enclose]

/-- Reading stops behind a name between quotes, and only there. -/
theorem readQuoted?_eq_some_iff (single : quotes.closing.toList = [quote])
    {text name rest : String} :
    quotes.readQuoted? text = some (name, rest) ↔
      text = quotes.enclose name ++ rest ∧ rest.toList.head? ≠ some quote := by
  -- The three parts of what is written are the opening quote, the doubled name and the closing one.
  have shape : text = quotes.enclose name ++ rest ↔
      quotes.opening.toList ++ (double [quote] name.toList ++ quote :: rest.toList) =
        text.toList := by
    rw [← String.toList_inj, String.toList_append, toList_enclose, single, eq_comm]
    simp only [List.append_assoc, List.singleton_append]
  rw [shape]
  simp only [readQuoted?, single, Option.bind_eq_bind, Option.bind_eq_some_iff,
    List.isPrefixOf?_eq_some_iff_append_eq]
  constructor
  · rintro ⟨inside, opened, ⟨body, behind⟩, read, same⟩
    cases same
    rw [readBody_eq_some_iff] at read
    obtain ⟨rfl, apart⟩ := read
    simp only [String.toList_ofList]
    exact ⟨opened, apart⟩
  · rintro ⟨opened, apart⟩
    refine ⟨_, opened, _, readBody_double apart name.toList, ?_⟩
    simp only [String.ofList_toList]

end IdentifierQuotes

/-- Built-in profiles have a single character as the closing quote too. -/
theorem Profile.closing_single {profile : Profile}
    (covered : (∃ (vendor : Vendor) (attributes : Attributes),
      profile = (vendor.configure attributes).result) ∨
      ∃ quote, profile.quotes.closing.toList = [quote]) :
    ∃ quote, profile.quotes.closing.toList = [quote] := by
  rcases covered with ⟨vendor, attributes, rfl⟩ | single
  · obtain ⟨_, quote, _, _, single⟩ := vendor.quotes_single (.ofAttributes attributes)
    exact ⟨quote, single⟩
  · exact single

/-- Whatever a name consists of, it is read back from between the quotes, provided that what follows
does not begin with the closing quote; and what is read in this way is what quoting writes for the
name. So no two names are quoted alike. -/
theorem quoteIdentifier_read_iff (profile : Profile)
    (covered : (∃ (vendor : Vendor) (attributes : Attributes),
      profile = (vendor.configure attributes).result) ∨
      ∃ quote, profile.quotes.closing.toList = [quote]) :
    (∀ text name rest, profile.quotes.readQuoted? text = some (name, rest) ↔
      text = profile.quoteIdentifier name ++ rest ∧
        ¬profile.quotes.closing.toList <+: rest.toList) ∧
    Function.Injective profile.quoteIdentifier := by
  obtain ⟨quote, single⟩ := Profile.closing_single covered
  have read (text name rest : String) :
      profile.quotes.readQuoted? text = some (name, rest) ↔
        text = profile.quoteIdentifier name ++ rest ∧
          ¬profile.quotes.closing.toList <+: rest.toList := by
    rw [IdentifierQuotes.readQuoted?_eq_some_iff single, single,
      List.singleton_prefix_iff_head?_eq_some]
    rfl
  refine ⟨read, ?_⟩
  intro name name' same
  -- A name between quotes is followed by nothing, which does not begin with a quote.
  have whole (name : String) :
      profile.quotes.readQuoted? (profile.quoteIdentifier name) = some (name, "") :=
    (read _ name "").mpr ⟨String.append_empty.symm, by simp [single]⟩
  have once := whole name
  rw [same, whole name'] at once
  exact (Prod.mk.inj (Option.some.inj once)).1.symm

/-- Closing quotes at both ends of a name, next to quotes that end with the same character. -/
theorem quoteIdentifier_read_iff_runs :
    let profile : Profile :=
      { Vendor.generic.profile {} with quotes := { opening := "q'", closing := "'" } }
    ((∃ (vendor : Vendor) (attributes : Attributes),
      profile = (vendor.configure attributes).result) ∨
      ∃ quote, profile.quotes.closing.toList = [quote]) ∧
    profile.quoteIdentifier "'a''" = "q'''a'''''" ∧
    profile.quotes.readQuoted? "q'''a'''''.b" = some ("'a''", ".b") := by
  intro profile
  have single : ∃ quote, profile.quotes.closing.toList = [quote] := ⟨'\'', by simp [profile]⟩
  have written : profile.quoteIdentifier "'a''" = "q'''a'''''" := by decide +kernel
  refine ⟨.inr single, written, ?_⟩
  refine ((quoteIdentifier_read_iff profile (.inr single)).1 _ _ _).mpr ⟨?_, ?_⟩
  · rw [written]
    rfl
  · decide +kernel

end VendorSql
