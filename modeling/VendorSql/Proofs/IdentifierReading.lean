import VendorSql.Proofs.IdentifierQuoting
import VendorSql.Proofs.Lowercase

/-!
# Reading identifiers back

A reader that knows the quotes takes an identifier from the beginning of a text: between quotes up
to the first closing quote that is not doubled, otherwise as far as the characters of a plain
identifier go. From a name as it is written it gets the name itself, in the forced case, and leaves
what follows, provided that this does not begin with a character the reader would take for a part of
the identifier. And it takes nothing else for an identifier: what it has passed is a word, or a name
between quotes with the closing quotes inside doubled.
-/
namespace VendorSql

namespace IdentifierQuotes

/-! ### The reader -/

/-- Reads up to the first closing quote that is not doubled: the name in front of it, in which a
doubled quote counts once, and what stands behind it. -/
def readBody (quote : Char) : List Char → Option (List Char × List Char)
  | [] => none
  | c :: rest =>
    if c = quote then
      match rest with
      | [] => some ([], [])
      | d :: later =>
        if d = quote then (readBody quote later).map fun (name, rest) => (quote :: name, rest)
        else some ([], d :: later)
    else (readBody quote rest).map fun (name, rest) => (c :: name, rest)

/-- Reads the identifier a text begins with: its name, and what stands behind it. Where the opening
quote is missing the identifier is plain. -/
def readIdentifier (opening quote : Char) : List Char → Option (List Char × List Char)
  | [] => some ([], [])
  | c :: rest =>
    if c = opening then readBody quote rest
    else some ((c :: rest).takeWhile continuesIdentifier, (c :: rest).dropWhile continuesIdentifier)

/-- What follows an identifier is apart from it if it begins with nothing that a reader could take
for a part of the identifier or for the beginning of one. -/
def Apart (opening quote : Char) (rest : List Char) : Prop :=
  ∀ c ∈ rest.head?, c ≠ opening ∧ c ≠ quote ∧ continuesIdentifier c = false

theorem apart_nil (opening quote : Char) : Apart opening quote [] := by
  intro c first
  cases first

/-- Where a rest begins that is apart, a plain identifier ends. -/
theorem Apart.stops {opening quote : Char} {rest : List Char} (apart : Apart opening quote rest) :
    rest.takeWhile continuesIdentifier = [] ∧ rest.dropWhile continuesIdentifier = rest := by
  cases rest with
  | nil => exact ⟨rfl, rfl⟩
  | cons c later =>
    have other := (apart c rfl).2.2
    simp [other]

/-- A name between quotes is read back, whatever is in it. -/
theorem readBody_double {quote : Char} {rest : List Char} (apart : rest.head? ≠ some quote)
    (name : List Char) :
    readBody quote (double [quote] name ++ quote :: rest) = some (name, rest) := by
  rw [double_single]
  -- A doubled quote is read as one, so reading takes as many steps as the name has characters.
  induction name with
  | nil =>
    cases rest with
    | nil => simp [readBody]
    | cons d later =>
      have other : d ≠ quote := by simpa using apart
      simp [readBody, other]
  | cons c name ih =>
    by_cases same : c = quote
    · subst same
      simp [readBody, ih]
    · rw [List.flatMap_cons, if_neg same, List.append_assoc, List.singleton_append]
      unfold readBody
      rw [if_neg same, ih]
      rfl

end IdentifierQuotes

/-! ### Plain identifiers -/

theorem continuesIdentifier_of_begins {c : Char} (begins : beginsIdentifier c = true) :
    continuesIdentifier c = true := by
  rw [beginsIdentifier, Bool.or_eq_true] at begins
  rw [continuesIdentifier, Bool.or_eq_true, Bool.or_eq_true]
  rcases begins with letter | underscore
  · exact .inl (.inl letter)
  · exact .inr underscore

/-- A plain identifier is read to its end if what follows is apart from it. -/
theorem readIdentifier_plain {opening quote : Char} (unplain : beginsIdentifier opening = false)
    {name rest : List Char} (plain : isPlainChars name = true)
    (apart : IdentifierQuotes.Apart opening quote rest) :
    IdentifierQuotes.readIdentifier opening quote (name ++ rest) = some (name, rest) := by
  cases name with
  | nil => cases plain
  | cons c name =>
    rw [isPlainChars, Bool.and_eq_true, List.all_eq_true] at plain
    have inside : ∀ d ∈ c :: name, continuesIdentifier d = true := by
      intro d member
      rcases List.mem_cons.mp member with rfl | member
      · exact continuesIdentifier_of_begins plain.1
      · exact plain.2 d member
    have bare : c ≠ opening := by
      rintro rfl
      rw [unplain] at plain
      cases plain.1
    -- The characters of the name go on up to the rest, which begins with another one.
    rw [List.cons_append, IdentifierQuotes.readIdentifier, if_neg bare, ← List.cons_append,
      List.takeWhile_append_of_pos inside, List.dropWhile_append_of_pos inside, apart.stops.1,
      apart.stops.2, List.append_nil]

/-! ### What the reader accepts -/

namespace IdentifierQuotes

theorem double_cons (quote c : Char) (text : List Char) :
    double [quote] (c :: text) =
      (if c = quote then [quote, quote] else [c]) ++ double [quote] text := by
  simp only [double_single, List.flatMap_cons]

theorem length_le_double (quote : Char) (text : List Char) :
    text.length ≤ (double [quote] text).length := by
  induction text with
  | nil => exact Nat.zero_le _
  | cons c text ih =>
    rw [double_cons, List.length_append]
    split <;> simp only [List.length_cons, List.length_nil] <;> omega

/-- A text in which every quote has its double is a text with its quotes doubled. -/
theorem eq_double_of_doubled {quote : Char} {body : List Char} (doubled : Doubled [quote] body) :
    ∃ name, body = double [quote] name := by
  induction doubled with
  | nil => exact ⟨[], rfl⟩
  | twice _ ih =>
    obtain ⟨name, rfl⟩ := ih
    exact ⟨quote :: name, by simp [double_cons]⟩
  | @other c rest lone _ ih =>
    obtain ⟨name, rfl⟩ := ih
    have differ : c ≠ quote := by
      rintro rfl
      exact lone (List.prefix_append [c] _)
    exact ⟨c :: name, by simp [double_cons, differ]⟩

/-- Reading to the closing quote undoes the doubling, and nothing else reads so. -/
theorem readBody_eq_some_iff {quote : Char} {text name rest : List Char} :
    readBody quote text = some (name, rest) ↔
      text = double [quote] name ++ quote :: rest ∧ rest.head? ≠ some quote := by
  constructor
  · -- One case for each step of the reader: the end, a doubled quote, the closing one, any other.
    intro read
    fun_induction readBody quote text generalizing name rest with
    | case1 => cases read
    | case2 =>
      cases read
      exact ⟨rfl, by simp⟩
    | case3 later ih =>
      obtain ⟨⟨inner, behind⟩, within, same⟩ := Option.map_eq_some_iff.mp read
      cases same
      obtain ⟨rfl, apart⟩ := ih within
      exact ⟨by simp [double_cons], apart⟩
    | case4 d later other =>
      cases read
      exact ⟨rfl, by simpa using other⟩
    | case5 c later other ih =>
      obtain ⟨⟨inner, behind⟩, within, same⟩ := Option.map_eq_some_iff.mp read
      cases same
      obtain ⟨rfl, apart⟩ := ih within
      exact ⟨by simp [double_cons, other], apart⟩
  · rintro ⟨rfl, apart⟩
    exact readBody_double apart name

theorem readIdentifier_of_unopened {opening quote : Char} {text : List Char}
    (unopened : text.head? ≠ some opening) :
    readIdentifier opening quote text =
      some (text.takeWhile continuesIdentifier, text.dropWhile continuesIdentifier) := by
  cases text with
  | nil => rfl
  | cons c rest =>
    have other : c ≠ opening := by simpa using unopened
    rw [readIdentifier, if_neg other]

/-- In front of a rest that is apart, a text is read as one identifier if all of it may stand inside
a plain one, or if it is a name between quotes. -/
theorem readIdentifier_append_iff {opening quote : Char}
    (unplain : continuesIdentifier opening = false) {text name rest : List Char}
    (apart : Apart opening quote rest) :
    readIdentifier opening quote (text ++ rest) = some (name, rest) ↔
      text = name ∧ text.all continuesIdentifier = true ∨
        text = opening :: double [quote] name ++ [quote] := by
  have unquoted : rest.head? ≠ some quote := fun first => (apart quote first).2.1 rfl
  constructor
  · intro read
    by_cases opened : (text ++ rest).head? = some opening
    · right
      -- The opening quote belongs to the text, since the rest does not begin with one.
      cases text with
      | nil => exact absurd rfl (apart opening opened).1
      | cons c text =>
        rw [List.cons_append, List.head?_cons, Option.some_inj] at opened
        subst opened
        rw [List.cons_append, readIdentifier, if_pos rfl, readBody_eq_some_iff] at read
        have split : text ++ rest = (double [quote] name ++ [quote]) ++ rest := by
          simpa using read.1
        rw [List.append_cancel_right split]
        rfl
    · left
      rw [readIdentifier_of_unopened opened, Option.some_inj, Prod.mk.injEq] at read
      obtain ⟨taken, dropped⟩ := read
      have split : name ++ rest = text ++ rest := by
        calc name ++ rest
            = (text ++ rest).takeWhile continuesIdentifier ++
                (text ++ rest).dropWhile continuesIdentifier := by rw [taken, dropped]
          _ = text ++ rest := List.takeWhile_append_dropWhile
      have whole : text = name := (List.append_cancel_right split).symm
      refine ⟨whole, ?_⟩
      rw [whole, ← taken]
      exact List.all_takeWhile
  · rintro (⟨rfl, inside⟩ | rfl)
    · rw [List.all_eq_true] at inside
      have unopened : (text ++ rest).head? ≠ some opening := by
        intro first
        cases text with
        | nil => exact (apart opening first).1 rfl
        | cons c text =>
          rw [List.cons_append, List.head?_cons, Option.some_inj] at first
          have plain := inside c List.mem_cons_self
          rw [first, unplain] at plain
          cases plain
      rw [readIdentifier_of_unopened unopened, List.takeWhile_append_of_pos inside,
        List.dropWhile_append_of_pos inside, apart.stops.1, apart.stops.2, List.append_nil]
    · rw [List.append_assoc, List.cons_append, readIdentifier, if_pos rfl]
      exact readBody_double unquoted name

end IdentifierQuotes

/-! ### Forcing the case -/

namespace Text

theorem lower_eq_empty_iff {text : String} : lower text = "" ↔ text = "" := by
  rw [lower, ← String.toList_inj, ← String.toList_inj, String.toList_ofList]
  cases text.toList with
  | nil => simp [lowerAfter]
  | cons c rest => simp [lowerAfter_cons, lowerAt_ne_nil]

theorem upperChar_ne_nil (c : Char) : upperChar c ≠ [] := by
  unfold upperChar
  split
  next codes found =>
    obtain ⟨before, after, split, _⟩ := List.lookup_eq_some_iff.mp found
    have written : upperExpansions.all (fun entry => !entry.2.isEmpty) = true := by decide +kernel
    have member : (c.toNat, codes) ∈ upperExpansions := by simp [split]
    have some := List.all_eq_true.mp written _ member
    simpa using some
  next => simp

theorem upper_eq_empty_iff {text : String} : upper text = "" ↔ text = "" := by
  rw [upper, ← String.toList_inj, ← String.toList_inj, String.toList_ofList]
  cases text.toList with
  | nil => simp
  | cons c rest => simp [upperChar_ne_nil]

end Text

/-- Forcing the case leaves characters where there are some. -/
theorem CommonOptions.foldCase_eq_empty_iff (options : CommonOptions) {name : String} :
    options.foldCase name = "" ↔ name = "" := by
  unfold foldCase
  split
  · exact Text.lower_eq_empty_iff
  · split
    · exact Text.upper_eq_empty_iff
    · rfl

/-! ### Names -/

namespace Profile

/-- How a name in the forced case is written: between quotes where it has to be. -/
def quoteFolded (profile : Profile) (folded : String) : String :=
  if folded = "" then ""
  else if profile.options.quoteAll || profile.isReserved folded || !isPlainIdentifier folded then
    profile.quoteIdentifier folded
  else folded

/-- A name that does not stand between quotes is written by its forced case alone. -/
theorem quoteName_of_bare {profile : Profile} {name : String}
    (bare : profile.quotes.encloses name = false) :
    profile.quoteName name = profile.quoteFolded (profile.options.foldCase name) := by
  simp only [quoteName, quoteFolded, bare, Bool.false_eq_true, if_false,
    profile.options.foldCase_eq_empty_iff]

/-- Single characters as quotes, of which the opening one begins no plain identifier. -/
structure QuotesWith (profile : Profile) (opening quote : Char) : Prop where
  opens : profile.quotes.opening.toList = [opening]
  closes : profile.quotes.closing.toList = [quote]
  unplain : beginsIdentifier opening = false

/-- Reads the name that a text begins with by the quotes of the profile, where these are single
characters. -/
def readName? (profile : Profile) (text : List Char) : Option (List Char × List Char) :=
  match profile.quotes.opening.toList, profile.quotes.closing.toList with
  | [opening], [quote] => IdentifierQuotes.readIdentifier opening quote text
  | _, _ => none

variable {profile : Profile} {opening quote : Char}

theorem readName?_eq (quotes : profile.QuotesWith opening quote) (text : List Char) :
    profile.readName? text = IdentifierQuotes.readIdentifier opening quote text := by
  simp only [readName?, quotes.opens, quotes.closes]

/-- A name between quotes is read back whole, whatever characters it has. -/
theorem readIdentifier_quoteIdentifier (quotes : profile.QuotesWith opening quote) (name : String)
    {rest : List Char} (apart : IdentifierQuotes.Apart opening quote rest) :
    IdentifierQuotes.readIdentifier opening quote
      ((profile.quoteIdentifier name).toList ++ rest) = some (name.toList, rest) := by
  have unquoted : rest.head? ≠ some quote := by
    intro first
    exact (apart quote first).2.1 rfl
  simp only [quoteIdentifier, IdentifierQuotes.enclose, String.toList_append, String.toList_ofList,
    quotes.opens, quotes.closes, List.append_assoc, List.cons_append, List.nil_append,
    IdentifierQuotes.readIdentifier, if_true]
  exact IdentifierQuotes.readBody_double unquoted name.toList

/-- Whether it was quoted or not, a name is read back in the forced case. -/
theorem readIdentifier_quoteName (quotes : profile.QuotesWith opening quote) {name : String}
    (bare : profile.quotes.encloses name = false) {rest : List Char}
    (apart : IdentifierQuotes.Apart opening quote rest) :
    IdentifierQuotes.readIdentifier opening quote ((profile.quoteName name).toList ++ rest) =
      some ((profile.options.foldCase name).toList, rest) := by
  rw [quoteName_of_bare bare]
  -- What counts is the name in the forced case: it is empty, in need of quotes, or plain.
  generalize profile.options.foldCase name = folded
  unfold quoteFolded
  split
  next empty =>
    subst empty
    cases rest with
    | nil => rfl
    | cons c later =>
      obtain ⟨unopened, _, other⟩ := apart c rfl
      simp [IdentifierQuotes.readIdentifier, unopened, other]
  next =>
    split
    next => exact readIdentifier_quoteIdentifier quotes folded apart
    next unquoted =>
      have plain : isPlainIdentifier folded = true := by
        simp only [Bool.or_eq_true, Bool.not_eq_true', not_or, Bool.not_eq_false] at unquoted
        exact unquoted.2
      exact readIdentifier_plain quotes.unplain plain apart

end Profile

/-- No quote of a built-in profile is a blank, and none that opens a name may stand inside a plain
one. -/
theorem Vendor.quotesWith (vendor : Vendor) (settings : Settings) :
    ∃ opening quote, (vendor.profile settings).QuotesWith opening quote ∧
      continuesIdentifier opening = false ∧ opening ≠ ' ' ∧ quote ≠ ' ' := by
  cases vendor with
  | sqlServer =>
    exact ⟨'[', ']', ⟨by simp [profile], by simp [profile], by decide +kernel⟩, by decide +kernel,
      by decide, by decide⟩
  | mySql =>
    exact ⟨'`', '`', ⟨by simp [profile], by simp [profile], by decide +kernel⟩, by decide +kernel,
      by decide, by decide⟩
  | postgreSql | generic =>
    exact ⟨'"', '"', ⟨by simp [profile], by simp [profile], by decide +kernel⟩, by decide +kernel,
      by decide, by decide⟩

end VendorSql
