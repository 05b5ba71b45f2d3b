import VendorSql.Proofs.Lexing

/-!
# The value of a literal

What a literal stands for can be worked out without the text it was made from. A literal is one or
more parts joined by the operator of the style: segments between single quotes, in which a doubled
quote stands for a quote and a backslash may begin an escape, and calls of the character function
with a code in decimal. Working out a literal gives back exactly the text that was quoted. Where the
style writes line breaks in another form, the literal has none.
-/
namespace VendorSql

/-- The character that a backslash and a letter stand for, where they stand for one. -/
def escaped? (letter : Char) : Option Char :=
  match letter with
  | '\\' => some '\\'
  | 'n' => some '\n'
  | 'r' => some '\r'
  | _ => none

/-- What has been worked out from the front of a text, and the text behind it. -/
structure Part where
  value : List Char
  behind : List Char
  deriving Repr, DecidableEq

/-- The same with one more character in front of the value. -/
def Part.after (c : Char) (part : Part) : Part :=
  { part with value := c :: part.value }

namespace LiteralStyle

/-! ### Working out a literal -/

/-- A segment whose opening quote has been read, up to its closing quote. -/
def segment? (style : LiteralStyle) : List Char → Option Part
  | [] => none
  | [last] => if last = '\'' then some ⟨[], []⟩ else none
  | c :: next :: rest =>
    if c = '\'' then
      if next = '\'' then (style.segment? rest).map (.after '\'') else some ⟨[], next :: rest⟩
    else if c = '\\' ∧ style.backslashEscapes then
      (escaped? next).bind fun escaped => (style.segment? rest).map (.after escaped)
    else (style.segment? (next :: rest)).map (.after c)

/-- A call of the function that stands for the character of a code. -/
def call? (function : String) (text : List Char) : Option Part := do
  let rest ← (function.toList ++ ['(']).isPrefixOf? text
  let code ← Number.readNat? (rest.takeWhile Char.isDigit)
  let behind ← [')'].isPrefixOf? (rest.dropWhile Char.isDigit)
  if code.isValidChar then some ⟨[Char.ofNat code], behind⟩ else none

def part? (style : LiteralStyle) (text : List Char) : Option Part :=
  if text.head? = some '\'' then style.segment? text.tail
  else match style.lineBreaks with
    | .concat _ function => call? function text
    | .escape | .verbatim => none

/-- The text behind the operator that joins two parts. -/
def behindOperator? (style : LiteralStyle) (text : List Char) : Option (List Char) :=
  match style.lineBreaks with
  | .concat operator _ => operator.toList.isPrefixOf? text
  | .escape | .verbatim => none

theorem length_of_isPrefixOf? {front text behind : List Char}
    (found : front.isPrefixOf? text = some behind) :
    front.length + behind.length = text.length := by
  rw [List.isPrefixOf?_eq_some_iff_append_eq] at found
  rw [← found, List.length_append]

/-- Reading a segment uses up characters, so evaluating comes to an end. -/
theorem segment?_shorter {style : LiteralStyle} {text : List Char} {part : Part}
    (found : style.segment? text = some part) : part.behind.length < text.length := by
  -- One case for each step of the reader: each takes a character at least.
  fun_induction segment? style text generalizing part with
  | case1 => cases found
  | case2 =>
    cases found
    exact Nat.zero_lt_one
  | case3 => cases found
  | case4 rest ih =>
    obtain ⟨inner, inside, rfl⟩ := Option.map_eq_some_iff.mp found
    have shorter := ih inside
    simp only [Part.after, List.length_cons]
    omega
  | case5 next rest _ =>
    cases found
    exact Nat.lt_succ_self _
  | case6 c next rest _ _ ih =>
    obtain ⟨escaped, _, found⟩ := Option.bind_eq_some_iff.mp found
    obtain ⟨inner, inside, rfl⟩ := Option.map_eq_some_iff.mp found
    have shorter := ih inside
    simp only [Part.after, List.length_cons]
    omega
  | case7 c next rest _ _ ih =>
    obtain ⟨inner, inside, rfl⟩ := Option.map_eq_some_iff.mp found
    have shorter := ih inside
    simp only [Part.after, List.length_cons] at shorter ⊢
    omega

theorem call?_shorter {function : String} {text : List Char} {part : Part}
    (found : call? function text = some part) : part.behind.length < text.length := by
  simp only [call?, Option.bind_eq_bind, Option.bind_eq_some_iff] at found
  obtain ⟨rest, opened, code, _, behind, closed, found⟩ := found
  split at found
  next =>
    cases found
    have front := length_of_isPrefixOf? opened
    have back := length_of_isPrefixOf? closed
    have fewer := (List.dropWhile_suffix (l := rest) Char.isDigit).length_le
    simp only [List.length_append, List.length_cons, List.length_nil] at front back
    simp only
    omega
  next => cases found

theorem part?_shorter {style : LiteralStyle} {text : List Char} {part : Part}
    (found : style.part? text = some part) : part.behind.length < text.length := by
  unfold part? at found
  split at found
  next =>
    have shorter := segment?_shorter found
    rw [List.length_tail] at shorter
    omega
  next =>
    split at found
    next => exact call?_shorter found
    all_goals cases found

theorem behindOperator?_length_le {style : LiteralStyle} {text behind : List Char}
    (found : style.behindOperator? text = some behind) : behind.length ≤ text.length := by
  unfold behindOperator? at found
  split at found
  next =>
    have whole := length_of_isPrefixOf? found
    omega
  all_goals cases found

/-- The value of a literal: that of its parts, one after another. All of the text has to be read. -/
def evaluate? (style : LiteralStyle) (text : List Char) : Option (List Char) :=
  match _ : style.part? text with
  | none => none
  | some part =>
    if part.behind = [] then some part.value
    else match _ : style.behindOperator? part.behind with
      | none => none
      | some rest => (style.evaluate? rest).map (part.value ++ ·)
termination_by text.length
decreasing_by exact Nat.lt_of_le_of_lt (behindOperator?_length_le ‹_›) (part?_shorter ‹_›)

/-- The text that an expression evaluates to. -/
def valueOf? (style : LiteralStyle) (expression : String) : Option String :=
  (style.evaluate? expression.toList).map String.ofList

theorem evaluate?_last {style : LiteralStyle} {text value : List Char}
    (found : style.part? text = some ⟨value, []⟩) : style.evaluate? text = some value := by
  rw [evaluate?]
  split
  next none => simp [found] at none
  next part some =>
    cases found.symm.trans some
    rfl

/-- The value of a part comes before that of the parts joined to it. -/
theorem evaluate?_joined {style : LiteralStyle} {text value behind rest : List Char}
    (found : style.part? text = some ⟨value, behind⟩) (more : behind ≠ [])
    (joined : style.behindOperator? behind = some rest) :
    style.evaluate? text = (style.evaluate? rest).map (value ++ ·) := by
  rw [evaluate?]
  split
  next none => simp [found] at none
  next part some =>
    cases found.symm.trans some
    rw [if_neg more]
    split
    next none => simp [joined] at none
    next other again =>
      cases joined.symm.trans again
      rfl

/-! ### What stands for a text -/

/-- Whether a character ends the segment in which it stands, as a line break does that becomes a
call. -/
def interrupts (style : LiteralStyle) (c : Char) : Bool :=
  match style.lineBreaks with
  | .concat _ _ => c = '\r' || c = '\n'
  | .escape | .verbatim => false

theorem interrupts_iff {style : LiteralStyle} {operator function : String}
    (breaks : style.lineBreaks = .concat operator function) (c : Char) :
    style.interrupts c = true ↔ c = '\r' ∨ c = '\n' := by
  simp [interrupts, breaks]

theorem segment?_close (style : LiteralStyle) {rest : List Char}
    (apart : rest.head? ≠ some '\'') : style.segment? ('\'' :: rest) = some ⟨[], rest⟩ := by
  cases rest with
  | nil => rfl
  | cons next rest =>
    have other : ¬next = '\'' := fun same => apart (by rw [same]; rfl)
    simp only [segment?, if_true, if_neg other]

theorem segment?_itself {style : LiteralStyle} {c : Char} (other : c ≠ '\'')
    (unescaped : ¬(c = '\\' ∧ style.backslashEscapes = true)) (rest : List Char) :
    style.segment? (c :: rest) = (style.segment? rest).map (.after c) := by
  cases rest with
  | nil => simp only [segment?, if_neg other, Option.map_none]
  | cons next rest => simp only [segment?, if_neg other, if_neg unescaped]

theorem segment?_backslash {style : LiteralStyle} (escapes : style.backslashEscapes = true)
    {letter c : Char} (escaped : escaped? letter = some c) (rest : List Char) :
    style.segment? ('\\' :: letter :: rest) = (style.segment? rest).map (.after c) := by
  simp [segment?, escapes, escaped]

/-- Inside a segment, what is written for a character stands for that character. -/
theorem segment?_encodeChar {style : LiteralStyle} (readable : style.Readable) {c : Char}
    (kept : style.interrupts c = false) (rest : List Char) :
    style.segment? (style.encodeChar c ++ rest) = (style.segment? rest).map (.after c) := by
  -- The cases are those of `encodeChar`, without the line breaks that become calls.
  unfold encodeChar
  split
  next quote =>
    subst quote
    simp [segment?]
  next other =>
    split
    next escaped =>
      rw [escaped.1]
      exact segment?_backslash escaped.2 rfl rest
    next unescaped =>
      split
      next lineBreak =>
        unfold LiteralStyle.lineBreak
        cases breaks : style.lineBreaks with
        | concat operator function =>
          have interrupted := (interrupts_iff breaks c).mpr lineBreak
          rw [kept] at interrupted
          cases interrupted
        | escape =>
          have escapes : style.backslashEscapes = true := by
            simpa [Readable, breaks] using readable
          rcases lineBreak with rfl | rfl
          · exact segment?_backslash escapes rfl rest
          · exact segment?_backslash escapes rfl rest
        | verbatim => exact segment?_itself other unescaped rest
      · exact segment?_itself other unescaped rest

/-- A segment without interruption stands for the text it was made from. -/
theorem segment?_encoded {style : LiteralStyle} (readable : style.Readable) {value : List Char}
    (whole : ∀ c ∈ value, style.interrupts c = false) {rest : List Char}
    (apart : rest.head? ≠ some '\'') :
    style.segment? (value.flatMap style.encodeChar ++ '\'' :: rest) = some ⟨value, rest⟩ := by
  induction value with
  | nil => exact segment?_close style apart
  | cons c value ih =>
    obtain ⟨kept, whole⟩ := List.forall_mem_cons.mp whole
    rw [List.flatMap_cons, List.append_assoc, segment?_encodeChar readable kept, ih whole]
    rfl

/-- Characters that interrupt nothing make one segment. -/
theorem part?_encoded {style : LiteralStyle} (readable : style.Readable) {value : List Char}
    (whole : ∀ c ∈ value, style.interrupts c = false) {rest : List Char}
    (apart : rest.head? ≠ some '\'') :
    style.part? ('\'' :: (value.flatMap style.encodeChar ++ '\'' :: rest)) =
      some ⟨value, rest⟩ := by
  rw [part?, List.head?_cons, if_pos rfl]
  exact segment?_encoded readable whole apart

def call (function : String) (c : Char) : List Char :=
  function.toList ++ ['('] ++ Nat.toDigits 10 c.toNat ++ [')']

theorem lineBreak_eq_call {style : LiteralStyle} {operator function : String}
    (breaks : style.lineBreaks = .concat operator function) (c : Char) :
    style.lineBreak c =
      ['\''] ++ operator.toList ++ call function c ++ operator.toList ++ ['\''] := by
  simp [LiteralStyle.lineBreak, breaks, call]

/-- A call with the code of a character stands for that character. -/
theorem call?_call (function : String) (c : Char) (rest : List Char) :
    call? function (call function c ++ rest) = some ⟨[c], rest⟩ := by
  have shape : call function c ++ rest =
      function.toList ++ ['('] ++ (Nat.toDigits 10 c.toNat ++ ([')'] ++ rest)) := by
    simp [call]
  have opened := List.isPrefixOf?_eq_some_iff_append_eq.mpr shape.symm
  have closed := List.isPrefixOf?_eq_some_iff_append_eq.mpr (rfl : [')'] ++ rest = _)
  -- The code ends at the parenthesis that closes the call.
  obtain ⟨taken, dropped⟩ := Number.toDigits_split c.toNat ([')'] ++ rest) (by
    simp [Char.isDigit])
  have valid : c.toNat.isValidChar := c.valid
  simp only [call?, opened, taken, dropped, closed, Option.bind_eq_bind, Option.bind_some,
    Number.readNat?_toDigits, if_pos valid, Char.ofNat_toNat]

/-- What begins without a quote does not begin a segment. -/
theorem head?_append_ne_quote {front rest : List Char} (quiet : '\'' ∉ front)
    (unquoted : rest.head? ≠ some '\'') : (front ++ rest).head? ≠ some '\'' := by
  cases front with
  | nil => exact unquoted
  | cons d front =>
    rw [List.mem_cons, not_or] at quiet
    intro quote
    cases quote
    exact quiet.1 rfl

theorem head?_call_ne_quote {function : String} (quiet : '\'' ∉ function.toList) (c : Char)
    (rest : List Char) : (call function c ++ rest).head? ≠ some '\'' := by
  simp only [call, List.append_assoc]
  exact head?_append_ne_quote quiet (by simp)

theorem behindOperator?_append {style : LiteralStyle} {operator function : String}
    (breaks : style.lineBreaks = .concat operator function) (rest : List Char) :
    style.behindOperator? (operator.toList ++ rest) = some rest := by
  simp only [behindOperator?, breaks]
  exact List.isPrefixOf?_eq_some_iff_append_eq.mpr rfl

/-- A line break that becomes a call is joined to the segment before it and to the literal of what
follows it. -/
theorem evaluate?_interrupted {style : LiteralStyle} {operator function : String}
    (breaks : style.lineBreaks = .concat operator function) (readable : style.Readable) {c : Char}
    (interrupted : style.interrupts c = true) {front value : List Char}
    (whole : ∀ c ∈ front, style.interrupts c = false)
    (later : style.evaluate? (style.encode value) = some value) :
    style.evaluate? (style.encode (front ++ c :: value)) = some (front ++ c :: value) := by
  have quiet := readable
  simp only [Readable, breaks] at quiet
  -- The literal is interrupted by a call, in front of which and behind which it goes on as before.
  have written : style.encodeChar c =
      ['\''] ++ operator.toList ++ call function c ++ operator.toList ++ ['\''] := by
    rcases (interrupts_iff breaks c).mp interrupted with rfl | rfl <;>
      exact lineBreak_eq_call breaks _
  have apart : (operator.toList ++
      (call function c ++ (operator.toList ++ style.encode value))).head? ≠ some '\'' :=
    head?_append_ne_quote quiet.1 (head?_call_ne_quote quiet.2 c _)
  have middle : style.part? (call function c ++ (operator.toList ++ style.encode value)) =
      some ⟨[c], operator.toList ++ style.encode value⟩ := by
    rw [part?, if_neg (head?_call_ne_quote quiet.2 c _), breaks]
    exact call?_call function c _
  calc style.evaluate? (style.encode (front ++ c :: value))
      = style.evaluate? ('\'' :: (front.flatMap style.encodeChar ++ '\'' ::
          (operator.toList ++ (call function c ++ (operator.toList ++ style.encode value))))) := by
        simp [encode, written]
    _ = (style.evaluate? (call function c ++ (operator.toList ++ style.encode value))).map
          (front ++ ·) :=
        evaluate?_joined (part?_encoded readable whole apart) (by simp [call])
          (behindOperator?_append breaks _)
    _ = ((style.evaluate? (style.encode value)).map ([c] ++ ·)).map (front ++ ·) := by
        rw [evaluate?_joined middle (by simp [encode]) (behindOperator?_append breaks _)]
    _ = some (front ++ c :: value) := by
        rw [later]
        rfl

/-- A literal of which a part of the first segment has been looked at evaluates to the text it was
made from. -/
theorem evaluate?_encode_append {style : LiteralStyle} (readable : style.Readable)
    (value : List Char) {front : List Char} (whole : ∀ c ∈ front, style.interrupts c = false) :
    style.evaluate? (style.encode (front ++ value)) = some (front ++ value) := by
  -- The segment grows until a line break interrupts it; then the next one begins with nothing.
  induction value generalizing front with
  | nil =>
    rw [List.append_nil]
    exact evaluate?_last (part?_encoded readable whole (by simp))
  | cons c value ih =>
    cases interrupted : style.interrupts c with
    | false =>
      have longer : ∀ d ∈ front ++ [c], style.interrupts d = false := by
        simpa [or_imp, forall_and, interrupted] using whole
      simpa using ih longer
    | true =>
      have later : style.evaluate? (style.encode value) = some value :=
        ih (List.forall_mem_nil _)
      cases breaks : style.lineBreaks with
      | concat operator function =>
        exact evaluate?_interrupted breaks readable interrupted whole later
      | escape => simp [interrupts, breaks] at interrupted
      | verbatim => simp [interrupts, breaks] at interrupted

/-! ### Line breaks -/

def Unbroken (text : List Char) : Prop :=
  ∀ c ∈ text, c ≠ '\r' ∧ c ≠ '\n'

/-- Whether line breaks are written in another form, which has none itself. -/
def RewritesLineBreaks (style : LiteralStyle) : Prop :=
  match style.lineBreaks with
  | .concat operator function => Unbroken operator.toList ∧ Unbroken function.toList
  | .escape => True
  | .verbatim => False

instance (text : List Char) : Decidable (Unbroken text) :=
  List.decidableBAll (fun c => c ≠ '\r' ∧ c ≠ '\n') text

theorem unbroken_append {front back : List Char} :
    Unbroken (front ++ back) ↔ Unbroken front ∧ Unbroken back :=
  List.forall_mem_append

theorem unbroken_call {function : String} (unbroken : Unbroken function.toList) (c : Char) :
    Unbroken (call function c) := by
  have digits : Unbroken (Nat.toDigits 10 c.toNat) := by
    intro d member
    have digit : d.isDigit = true := Nat.isDigit_of_mem_toDigits (by decide) (by decide) member
    constructor <;> rintro rfl <;> cases digit
  simp only [call, unbroken_append]
  exact ⟨⟨⟨unbroken, by decide⟩, digits⟩, by decide⟩

theorem unbroken_lineBreak {style : LiteralStyle} (rewrites : style.RewritesLineBreaks) (c : Char) :
    Unbroken (style.lineBreak c) := by
  cases breaks : style.lineBreaks with
  | concat operator function =>
    simp only [RewritesLineBreaks, breaks] at rewrites
    simp only [lineBreak_eq_call breaks, unbroken_append]
    exact ⟨⟨⟨⟨by decide, rewrites.1⟩, unbroken_call rewrites.2 c⟩, rewrites.1⟩, by decide⟩
  | escape =>
    simp only [LiteralStyle.lineBreak, breaks]
    split <;> decide
  | verbatim => simp [RewritesLineBreaks, breaks] at rewrites

theorem unbroken_encodeChar {style : LiteralStyle} (rewrites : style.RewritesLineBreaks)
    (c : Char) : Unbroken (style.encodeChar c) := by
  unfold encodeChar
  split
  · decide
  · split
    · decide
    · split
      · exact unbroken_lineBreak rewrites c
      next other =>
        intro d member
        rw [List.mem_singleton.mp member]
        exact not_or.mp other

theorem unbroken_encode {style : LiteralStyle} (rewrites : style.RewritesLineBreaks)
    (value : List Char) : Unbroken (style.encode value) := by
  have inner : Unbroken (value.flatMap style.encodeChar) := by
    intro c member
    obtain ⟨d, _, written⟩ := List.mem_flatMap.mp member
    exact unbroken_encodeChar rewrites d c written
  have quote : Unbroken ['\''] := by decide
  exact unbroken_append.mpr ⟨unbroken_append.mpr ⟨quote, inner⟩, quote⟩

end LiteralStyle

/-- Every text is the value of the literal that stands for it, in the styles of the vendors and in
all that can be read back. Where the style has a form for line breaks, the literal is in one
line. -/
theorem valueOf?_quote (style : LiteralStyle) (value : String) :
    ((∃ (vendor : Vendor) (settings : Settings), style = (vendor.profile settings).literals) ∨
        style.Readable →
      style.valueOf? (style.quote value) = some value) ∧
    (style.RewritesLineBreaks → LiteralStyle.Unbroken (style.quote value).toList) := by
  constructor
  · intro covered
    have readable : style.Readable := by
      rcases covered with ⟨vendor, settings, rfl⟩ | readable
      · exact literals_readable vendor settings
      · exact readable
    have evaluated : style.evaluate? (style.encode value.toList) = some value.toList :=
      LiteralStyle.evaluate?_encode_append readable value.toList (List.forall_mem_nil _)
    rw [LiteralStyle.valueOf?, LiteralStyle.quote, String.toList_ofList, evaluated, Option.map_some,
      String.ofList_toList]
  · intro rewrites
    rw [LiteralStyle.quote, String.toList_ofList]
    exact LiteralStyle.unbroken_encode rewrites value.toList

/-- Quotes at both ends, a line break beside each, and a backslash. -/
theorem valueOf?_quote_hostile :
    let style := (Vendor.sqlServer.profile {}).literals
    let value := "'\r\n\\\n'"
    ((∃ (vendor : Vendor) (settings : Settings),
      style = (vendor.profile settings).literals) ∨ style.Readable) ∧
    style.quote value = "''''+char(13)+''+char(10)+'\\'+char(10)+''''" ∧
    style.valueOf? (style.quote value) = some value ∧
    style.RewritesLineBreaks ∧ LiteralStyle.Unbroken (style.quote value).toList := by
  intro style value
  have covered : ∃ (vendor : Vendor) (settings : Settings),
      style = (vendor.profile settings).literals := ⟨.sqlServer, {}, rfl⟩
  have rewrites : style.RewritesLineBreaks := by
    change LiteralStyle.Unbroken _ ∧ LiteralStyle.Unbroken _
    decide +kernel
  obtain ⟨evaluates, unbroken⟩ := valueOf?_quote style value
  exact ⟨.inl covered, by decide +kernel, evaluates (.inl covered), rewrites, unbroken rewrites⟩

/-- A quote that is not doubled ends its segment, and no literal goes on behind it without the
operator. -/
example : (Vendor.postgreSql.profile {}).literals.valueOf? "'a'b'" = none := by cbv

end VendorSql
