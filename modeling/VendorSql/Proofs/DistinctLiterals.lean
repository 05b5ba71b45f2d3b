import VendorSql.Proofs.LiteralValues

/-!
# Different texts as different literals

A literal that can be read back stands for one text only. The one style that cannot be read back
writes line breaks with a backslash although it takes the backslash for a character like any other:
there a line break looks like a backslash in front of a letter, and two texts have the same literal
exactly if they are the same once every line break in them is spelled out in this way.
-/
namespace VendorSql

namespace LiteralStyle

/-- What joins characters to a literal contains no quote. -/
def Quiet (style : LiteralStyle) : Prop :=
  match style.lineBreaks with
  | .concat operator function => '\'' ∉ operator.toList ∧ '\'' ∉ function.toList
  | .escape | .verbatim => True

/-- Line breaks become escapes while the backslash is no escape character. -/
def Confuses (style : LiteralStyle) : Prop :=
  style.lineBreaks = .escape ∧ style.backslashEscapes = false

def spellBreak (c : Char) : List Char :=
  if c = '\r' then ['\\', 'r'] else if c = '\n' then ['\\', 'n'] else [c]

/-- The text with a backslash and a letter in the place of each line break. -/
def spellBreaks (value : List Char) : List Char :=
  value.flatMap spellBreak

theorem readable_iff_not_confuses {style : LiteralStyle} (quiet : style.Quiet) :
    style.Readable ↔ ¬style.Confuses := by
  cases breaks : style.lineBreaks with
  | concat operator function => simpa [Readable, Confuses, Quiet, breaks] using quiet
  | escape => simp [Readable, Confuses, breaks]
  | verbatim => simp [Readable, Confuses, breaks]

/-! ### Styles that can be read back -/

theorem encode_injective {style : LiteralStyle} (readable : style.Readable) :
    Function.Injective style.encode := by
  have evaluates (value : List Char) : style.evaluate? (style.encode value) = some value :=
    evaluate?_encode_append readable value (List.forall_mem_nil _)
  intro value value' same
  have read := evaluates value
  rw [same, evaluates value'] at read
  exact (Option.some.inj read).symm

theorem quote_eq_quote_iff_encode (style : LiteralStyle) {value value' : String} :
    style.quote value = style.quote value' ↔
      style.encode value.toList = style.encode value'.toList := by
  rw [quote, quote, ← String.toList_inj, String.toList_ofList, String.toList_ofList]

/-! ### The style that cannot -/

/-- A style that confuses writes a line break as the standard one writes the backslash and the
letter. -/
theorem encodeChar_of_confuses {style : LiteralStyle} (confuses : style.Confuses) (c : Char) :
    style.encodeChar c = (spellBreak c).flatMap standard.encodeChar := by
  obtain ⟨escape, literal⟩ := confuses
  -- The standard style leaves a backslash and a letter alone, as this style does.
  unfold spellBreak
  split
  next carriage =>
    subst carriage
    simp [encodeChar, lineBreak, escape, standard]
  next =>
    split
    next feed =>
      subst feed
      simp [encodeChar, lineBreak, escape, standard]
    next other other' =>
      simp [encodeChar, literal, standard, other, other']

/-- To escape line breaks here is to spell them out first and then write a standard literal. -/
theorem encode_of_confuses {style : LiteralStyle} (confuses : style.Confuses)
    (value : List Char) : style.encode value = standard.encode (spellBreaks value) := by
  have written : style.encodeChar = fun c => (spellBreak c).flatMap standard.encodeChar :=
    funext (encodeChar_of_confuses confuses)
  rw [encode, encode, spellBreaks, List.flatMap_assoc, written]

theorem quote_eq_quote_of_confuses {style : LiteralStyle} (confuses : style.Confuses)
    {value value' : String} :
    style.quote value = style.quote value' ↔
      spellBreaks value.toList = spellBreaks value'.toList := by
  have readable : standard.Readable := trivial
  rw [quote_eq_quote_iff_encode, encode_of_confuses confuses, encode_of_confuses confuses]
  exact (encode_injective readable).eq_iff

end LiteralStyle

/-- No two texts have the same literal, unless line breaks become escapes where the backslash is no
escape character; there they have it exactly if they are the same with their line breaks spelled
out, as a line break and a backslash before a letter are. -/
theorem quote_eq_quote_iff (style : LiteralStyle) (quiet : style.Quiet) :
    (Function.Injective style.quote ↔ ¬style.Confuses) ∧
    ∀ value value', style.quote value = style.quote value' ↔
      value = value' ∨ style.Confuses ∧
        LiteralStyle.spellBreaks value.toList = LiteralStyle.spellBreaks value'.toList := by
  have injective (distinct : ¬style.Confuses) : Function.Injective style.quote := by
    intro value value' same
    have readable := (LiteralStyle.readable_iff_not_confuses quiet).mpr distinct
    rw [LiteralStyle.quote_eq_quote_iff_encode] at same
    exact String.toList_injective (LiteralStyle.encode_injective readable same)
  refine ⟨⟨?_, injective⟩, ?_⟩
  · intro apart confuses
    -- A line break and the letters of its escape are what the style cannot keep apart.
    have merged : style.quote "\n" = style.quote "\\n" :=
      (LiteralStyle.quote_eq_quote_of_confuses confuses).mpr (by decide +kernel)
    exact absurd (apart merged) (by decide)
  · intro value value'
    constructor
    · intro same
      by_cases confuses : style.Confuses
      · exact .inr ⟨confuses, (LiteralStyle.quote_eq_quote_of_confuses confuses).mp same⟩
      · exact .inl (injective confuses same)
    · rintro (rfl | ⟨confuses, spelled⟩)
      · rfl
      · exact (LiteralStyle.quote_eq_quote_of_confuses confuses).mpr spelled

/-- A style that joins line breaks with nothing, so that the quotes around a call stand next to
those of the literal, and escapes backslashes as well. -/
theorem quote_eq_quote_iff_joined :
    let style : LiteralStyle := { backslashEscapes := true, lineBreaks := .concat "" "" }
    style.Quiet ∧ style.quote "\n" = "''(10)''" ∧ style.quote "'(10)'" = "'''(10)'''" ∧
      Function.Injective style.quote := by
  intro style
  have quiet : style.Quiet := by
    change '\'' ∉ "".toList ∧ '\'' ∉ "".toList
    decide
  have reads : ¬style.Confuses := by
    rintro ⟨escape, -⟩
    cases escape
  exact ⟨quiet, by decide +kernel, by decide +kernel, (quote_eq_quote_iff style quiet).1.mpr reads⟩

/-- A line feed, and a backslash before the letter for it. -/
theorem quote_line_feed_eq_quote_escape :
    let style : LiteralStyle := { lineBreaks := .escape }
    style.Quiet ∧ "\n" ≠ "\\n" ∧ style.quote "\n" = style.quote "\\n" :=
  ⟨trivial, by decide, by decide +kernel⟩

end VendorSql
