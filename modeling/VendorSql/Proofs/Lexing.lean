import VendorSql.Identifier
import VendorSql.Literal
import VendorSql.Text.CharClass
import VendorSql.Vendor.Builtin
import Mathlib.Data.List.Basic

/-!
# Reading SQL text

A database reads a statement from left to right as words, symbols and string literals. Inside a
literal a doubled quote stands for a quote, a backslash escapes the next character where the vendor
says so, and a call of the character function between two parts of a literal joins them with the
character of that code. Whatever the value, a reader that follows these rules takes its literal as
one token with exactly that value, and goes on with the text behind it as if nothing had come
before. The lookahead is bounded by the text itself: `lexFrom` counts the characters that belong to
what it has recognized already, so it recurses on the text and on nothing else.
-/
namespace VendorSql

/-- A part of a statement. A literal stands for its value, however it is spelled. -/
inductive Token where
  | word (letters : String)
  | symbol (c : Char)
  | literal (value : String)
  /-- A literal whose closing quote never comes. -/
  | unterminated (value : String)
  deriving Repr, DecidableEq

/-- Where a reader stands: outside of literals, after the letters of a word that may go on, or
inside a literal, after a part of its value. -/
inductive LexState where
  | outside (letters : List Char)
  | inside (value : List Char)

def endWord (letters : List Char) : List Token :=
  if letters = [] then [] else [.word (String.ofList letters)]

/-- What a backslash followed by a character stands for. -/
def unescape (c : Char) : List Char :=
  match c with
  | 'n' => ['\n']
  | 'r' => ['\r']
  | 't' => ['\t']
  | 'b' => ['\x08']
  | '0' => ['\x00']
  | 'Z' => ['\x1a']
  | '%' | '_' => ['\\', c]
  | _ => [c]

namespace LiteralStyle

/-- What stands between a part of a literal and the code of a character that is joined to it. -/
def beforeCode (operator function : String) : List Char :=
  operator.toList ++ function.toList ++ ['(']

/-- What stands between the code of a character and the next part of the literal. -/
def afterCode (operator : String) : List Char :=
  ')' :: operator.toList ++ ['\'']

/-- The character that a call behind a closing quote joins to the literal, and the length of the
call up to the quote that opens the literal again. -/
def joined? (style : LiteralStyle) (text : List Char) : Option (Char × Nat) :=
  match style.lineBreaks with
  | .concat operator function => do
    let rest ← (beforeCode operator function).isPrefixOf? text
    let digits := rest.takeWhile Char.isDigit
    let code ← Number.readNat? digits
    let _ ← (afterCode operator).isPrefixOf? (rest.dropWhile Char.isDigit)
    some (Char.ofNat code,
      (beforeCode operator function ++ digits ++ afterCode operator).length)
  | .escape | .verbatim => none

/-- The tokens of a text whose first `skip` characters belong to what has been read. -/
def lexFrom (style : LiteralStyle) : Nat → LexState → List Char → List Token
  | _, .outside letters, [] => endWord letters
  | _, .inside value, [] => [.unterminated (String.ofList value)]
  | skip + 1, state, _ :: rest => style.lexFrom skip state rest
  | 0, .outside letters, c :: rest =>
    if c = '\'' then endWord letters ++ style.lexFrom 0 (.inside []) rest
    else if continuesIdentifier c then style.lexFrom 0 (.outside (letters ++ [c])) rest
    else if Text.isBlank c then endWord letters ++ style.lexFrom 0 (.outside []) rest
    else endWord letters ++ .symbol c :: style.lexFrom 0 (.outside []) rest
  | 0, .inside value, c :: rest =>
    if c = '\'' then
      if rest.head? = some '\'' then style.lexFrom 1 (.inside (value ++ ['\''])) rest
      else match style.joined? rest with
        | some (joined, length) => style.lexFrom length (.inside (value ++ [joined])) rest
        | none => .literal (String.ofList value) :: style.lexFrom 0 (.outside []) rest
    else if c = '\\' ∧ style.backslashEscapes then
      style.lexFrom 1 (.inside (value ++ rest.head?.toList.flatMap unescape)) rest
    else style.lexFrom 0 (.inside (value ++ [c])) rest

def tokens (style : LiteralStyle) (text : String) : List Token :=
  style.lexFrom 0 (.outside []) text.toList

/-- Whether a literal can be told from what surrounds it: what joins characters to it contains no
quote, and escapes are written only where a backslash is read as one. -/
def Readable (style : LiteralStyle) : Prop :=
  match style.lineBreaks with
  | .concat operator function => '\'' ∉ operator.toList ∧ '\'' ∉ function.toList
  | .escape => style.backslashEscapes = true
  | .verbatim => True

/-- Whether a character behind a closing quote may be taken for a part of the literal. -/
def continues (style : LiteralStyle) (c : Char) : Bool :=
  c == '\'' || match style.lineBreaks with
    | .concat operator function => (beforeCode operator function).head? == some c
    | .escape | .verbatim => false

/-- A text that cannot be taken for a part of the literal it follows. -/
def Detached (style : LiteralStyle) (text : List Char) : Prop :=
  ∀ c ∈ text.head?, style.continues c = false

/-! ### What follows a literal -/

theorem joined?_of_detached {style : LiteralStyle} {text : List Char}
    (detached : style.Detached text) : style.joined? text = none := by
  unfold joined?
  cases breaks : style.lineBreaks with
  | concat operator function =>
    -- A call begins with the operator, the function or a parenthesis, and the text does not.
    have absent : (beforeCode operator function).isPrefixOf? text = none := by
      apply Option.eq_none_iff_forall_ne_some.mpr
      intro rest found
      rw [List.isPrefixOf?_eq_some_iff_append_eq] at found
      subst found
      cases front : beforeCode operator function with
      | nil => simp [beforeCode] at front
      | cons c front =>
        have free := detached c (by simp [front])
        simp [continues, breaks, front] at free
    simp [absent]
  | escape => rfl
  | verbatim => rfl

theorem not_quote_of_detached {style : LiteralStyle} {text : List Char}
    (detached : style.Detached text) : text.head? ≠ some '\'' := by
  intro quote
  have free := detached '\'' quote
  simp [continues] at free

/-- A call that joins a character is recognized, whatever comes behind the reopened literal. -/
theorem joined?_call {style : LiteralStyle} {operator function : String}
    (breaks : style.lineBreaks = .concat operator function) (c : Char) (rest : List Char) :
    style.joined? (beforeCode operator function ++ Nat.toDigits 10 c.toNat ++ afterCode operator ++
        rest) =
      some (c, (beforeCode operator function ++ Nat.toDigits 10 c.toNat ++
        afterCode operator).length) := by
  -- The code ends at the parenthesis that closes the call.
  obtain ⟨taken, dropped⟩ := Number.toDigits_split c.toNat (afterCode operator ++ rest) (by
    simp [afterCode, Char.isDigit])
  have front := List.isPrefixOf?_eq_some_iff_append_eq.mpr
    (rfl : beforeCode operator function ++
      (Nat.toDigits 10 c.toNat ++ (afterCode operator ++ rest)) = _)
  have back := List.isPrefixOf?_eq_some_iff_append_eq.mpr
    (rfl : afterCode operator ++ rest = _)
  simp only [joined?, breaks, List.append_assoc, front, taken, dropped, back, Option.bind_eq_bind,
    Option.bind_some, Number.readNat?_toDigits, Char.ofNat_toNat]

/-! ### Inside a literal -/

/-- The characters that belong to what has been read are passed over. -/
theorem lexFrom_skip (style : LiteralStyle) (state : LexState) (skipped rest : List Char) :
    style.lexFrom skipped.length state (skipped ++ rest) = style.lexFrom 0 state rest := by
  induction skipped with
  | nil => rfl
  | cons c skipped ih =>
    rw [← ih]
    cases state <;> rfl

theorem lexFrom_quote_quote (style : LiteralStyle) (done rest : List Char) :
    style.lexFrom 0 (.inside done) ('\'' :: '\'' :: rest) =
      style.lexFrom 0 (.inside (done ++ ['\''])) rest := by
  simp [lexFrom]

theorem lexFrom_backslash {style : LiteralStyle} (escapes : style.backslashEscapes = true)
    (c : Char) (done rest : List Char) :
    style.lexFrom 0 (.inside done) ('\\' :: c :: rest) =
      style.lexFrom 0 (.inside (done ++ unescape c)) rest := by
  simp [lexFrom, escapes]

theorem lexFrom_itself {style : LiteralStyle} {c : Char} (other : c ≠ '\'')
    (unescaped : ¬(c = '\\' ∧ style.backslashEscapes = true)) (done rest : List Char) :
    style.lexFrom 0 (.inside done) (c :: rest) = style.lexFrom 0 (.inside (done ++ [c])) rest := by
  simp only [lexFrom, if_neg other, if_neg unescaped]

/-- The call behind a closing quote adds its character to the literal, which goes on behind it. -/
theorem lexFrom_call {style : LiteralStyle} {operator function : String}
    (breaks : style.lineBreaks = .concat operator function) (readable : style.Readable)
    (c : Char) (done rest : List Char) :
    style.lexFrom 0 (.inside done) ('\'' :: (beforeCode operator function ++
        Nat.toDigits 10 c.toNat ++ afterCode operator ++ rest)) =
      style.lexFrom 0 (.inside (done ++ [c])) rest := by
  simp only [Readable, breaks] at readable
  -- The quote is not doubled, since what comes next is the operator, the function or a parenthesis.
  have single : (beforeCode operator function ++ Nat.toDigits 10 c.toNat ++ afterCode operator ++
      rest).head? ≠ some '\'' := by
    intro quote
    have member : '\'' ∈ beforeCode operator function := by
      cases front : beforeCode operator function with
      | nil => simp [beforeCode] at front
      | cons d front' =>
        rw [front] at quote
        simp only [List.cons_append, List.head?_cons, Option.some.injEq] at quote
        simp [quote]
    simp [beforeCode, readable.1, readable.2] at member
  simp only [lexFrom, if_true, if_neg single, joined?_call breaks, lexFrom_skip]

/-- A literal ends at a quote with detached text behind it. -/
theorem lexFrom_close {style : LiteralStyle} (value : List Char) {rest : List Char}
    (detached : style.Detached rest) :
    style.lexFrom 0 (.inside value) ('\'' :: rest) =
      .literal (String.ofList value) :: style.lexFrom 0 (.outside []) rest := by
  simp only [lexFrom, if_true, if_neg (not_quote_of_detached detached),
    joined?_of_detached detached]

/-- Reading what is written for one character adds that character to the value. -/
theorem lexFrom_encodeChar {style : LiteralStyle} (readable : style.Readable) (c : Char)
    (done rest : List Char) :
    style.lexFrom 0 (.inside done) (style.encodeChar c ++ rest) =
      style.lexFrom 0 (.inside (done ++ [c])) rest := by
  -- The cases are those of `encodeChar`, and each is undone by one rule of the reader.
  unfold encodeChar
  split
  next quote =>
    subst quote
    exact lexFrom_quote_quote style done rest
  next other =>
    split
    next escaped =>
      rw [escaped.1]
      exact lexFrom_backslash escaped.2 '\\' done rest
    next unescaped =>
      split
      next lineBreak =>
        unfold LiteralStyle.lineBreak
        cases breaks : style.lineBreaks with
        | concat operator function =>
          have call := lexFrom_call breaks readable c done rest
          simpa [beforeCode, afterCode] using call
        | escape =>
          have escapes : style.backslashEscapes = true := by
            simpa [Readable, breaks] using readable
          rcases lineBreak with rfl | rfl
          · exact lexFrom_backslash escapes 'r' done rest
          · exact lexFrom_backslash escapes 'n' done rest
        | verbatim => exact lexFrom_itself other unescaped done rest
      · exact lexFrom_itself other unescaped done rest

/-- Reading what is written for a value, from the opening quote on, yields that value. -/
theorem lexFrom_encoded {style : LiteralStyle} (readable : style.Readable) (value : List Char)
    (done : List Char) {rest : List Char} (detached : style.Detached rest) :
    style.lexFrom 0 (.inside done) (value.flatMap style.encodeChar ++ '\'' :: rest) =
      .literal (String.ofList (done ++ value)) :: style.lexFrom 0 (.outside []) rest := by
  -- What has been read is part of the state, so it grows while the value shrinks.
  induction value generalizing done with
  | nil => simpa using lexFrom_close done detached
  | cons c value ih =>
    rw [List.flatMap_cons, List.append_assoc, lexFrom_encodeChar readable, ih]
    simp

/-! ### Outside of literals -/

/-- A text without quotes is read the same whether it ends or a literal follows it. -/
theorem lexFrom_before_quote (style : LiteralStyle) {text : List Char} (quiet : '\'' ∉ text)
    (letters rest : List Char) :
    style.lexFrom 0 (.outside letters) (text ++ '\'' :: rest) =
      style.lexFrom 0 (.outside letters) text ++ style.lexFrom 0 (.inside []) rest := by
  induction text generalizing letters with
  | nil => simp [lexFrom]
  | cons c text ih =>
    simp only [List.mem_cons, not_or] at quiet
    have other : ¬c = '\'' := fun same => quiet.1 same.symm
    simp only [List.cons_append, lexFrom, if_neg other, ih quiet.2]
    -- A letter goes on with a word, and a blank or a symbol ends it, as they do without the quote.
    split
    · rfl
    · split <;> simp

/-- A literal behind a text without quotes is one token, and the text behind it is read afresh. -/
theorem tokens_literal {style : LiteralStyle} (readable : style.Readable) {text : String}
    (quiet : '\'' ∉ text.toList) (value : String) {rest : String}
    (detached : style.Detached rest.toList) :
    style.tokens (text ++ style.quote value ++ rest) =
      style.tokens text ++ .literal value :: style.tokens rest := by
  have inside := lexFrom_encoded readable value.toList [] detached
  have outside := lexFrom_before_quote style quiet []
    (value.toList.flatMap style.encodeChar ++ '\'' :: rest.toList)
  rw [inside] at outside
  simpa [tokens, quote, encode] using outside

end LiteralStyle

theorem literals_readable (vendor : Vendor) (settings : Settings) :
    (vendor.profile settings).literals.Readable := by
  cases vendor <;> simp [Vendor.profile, LiteralStyle.Readable, LiteralStyle.standard]

end VendorSql
