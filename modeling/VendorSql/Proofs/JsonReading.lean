import VendorSql.Json.Reader
import VendorSql.Json.Writer
import Mathlib.Data.List.Basic

/-!
# Reading back what is written

A tree whose leaves are texts is read back from its layout: every character of a text is written so
that it is read as itself, and blanks stand only where the reader skips them. The reader's bound on
its steps is twice the length of what is left to read, and each part of a tree takes from it no more
than twice its own length.
-/
namespace VendorSql

/-- A tree whose leaves are texts. -/
inductive Datum.Textual : Datum → Prop
  | text (value : String) : Textual (.text value)
  | list {items : List Datum} : (∀ item ∈ items, Textual item) → Textual (.list items)
  | table {entries : List (String × Datum)} :
    (∀ entry ∈ entries, Textual entry.2) → Textual (.table entries)

/-- What is read from each item as it was written is read from all of them. -/
theorem mapM_written {α β : Type} {write : α → β} {read : β → Option α}
    (reads : ∀ item, read (write item) = some item) (items : List α) :
    (items.map write).mapM read = some items := by
  induction items with
  | nil => rfl
  | cons item items ih => simp [List.mapM_cons, reads, ih]

namespace Json

/-! ### Strings -/

theorem hexNumber?_control {code : Nat} (control : code < 0x20) :
    hexNumber? ['0', '0', Nat.digitChar (code / 16), Nat.digitChar (code % 16)] = some code := by
  have table : ∀ code < 0x20, hexNumber?
      ['0', '0', Nat.digitChar (code / 16), Nat.digitChar (code % 16)] = some code := by
    decide +kernel
  exact table code control

/-- The reader's result with the code of one more character in front. -/
def withCode (c : Char) (read : List Nat × List Char) : List Nat × List Char :=
  (c.toNat :: read.1, read.2)

theorem stringCodes_backslash {letter c : Char} (escaped : escapedChar? letter = some c)
    (rest : List Char) :
    stringCodes ('\\' :: letter :: rest) = (stringCodes rest).map (withCode c) := by
  have other : letter ≠ 'u' := by
    rintro rfl
    cases escaped
  rw [stringCodes]
  · simp only [escaped]
    cases stringCodes rest <;> rfl
  · simp [other]

theorem stringCodes_control {c : Char} (control : c.toNat < 0x20) (rest : List Char) :
    stringCodes ('\\' :: 'u' :: '0' :: '0' :: Nat.digitChar (c.toNat / 16) ::
      Nat.digitChar (c.toNat % 16) :: rest) = (stringCodes rest).map (withCode c) := by
  rw [stringCodes, hexNumber?_control control]
  cases stringCodes rest <;> rfl

theorem stringCodes_itself {c : Char} (quote : c ≠ '"') (backslash : c ≠ '\\')
    (visible : ¬c.toNat < 0x20) (rest : List Char) :
    stringCodes (c :: rest) = (stringCodes rest).map (withCode c) := by
  rw [stringCodes]
  · rw [if_neg (not_or.mpr ⟨backslash, visible⟩)]
    cases stringCodes rest <;> rfl
  all_goals simp [quote, backslash]

/-- What is written for a character is read as its code. -/
theorem stringCodes_escape (c : Char) (rest : List Char) :
    stringCodes (escape c ++ rest) = (stringCodes rest).map (withCode c) := by
  unfold escape
  split
  next same =>
    subst same
    exact stringCodes_backslash rfl rest
  next quote =>
    split
    next same =>
      subst same
      exact stringCodes_backslash rfl rest
    next backslash =>
      -- The controls with a letter of their own are told from the others one by one.
      iterate 5
        split
        · subst c
          exact stringCodes_backslash rfl rest
      split
      next control => exact stringCodes_control control rest
      next visible => exact stringCodes_itself quote backslash visible rest

/-- A text that has been escaped is read to its closing quote, one code for each character. -/
theorem stringCodes_text (text rest : List Char) :
    stringCodes (text.flatMap escape ++ '"' :: rest) = some (text.map Char.toNat, rest) := by
  induction text with
  | nil => rfl
  | cons c text ih =>
    rw [List.flatMap_cons, List.append_assoc, stringCodes_escape, ih]
    rfl

/-- The code of a character is no half of a surrogate pair, so it stands for that character. -/
theorem charsOfCodes?_map_toNat (text : List Char) :
    charsOfCodes? (text.map Char.toNat) = some text := by
  induction text with
  | nil => rfl
  | cons c text ih =>
    have valid : c.toNat < 0xd800 ∨ 0xdfff < c.toNat ∧ c.toNat < 0x110000 := c.valid
    have high : isHighSurrogate c.toNat = false := by
      simp only [isHighSurrogate, Bool.and_eq_false_iff, decide_eq_false_iff_not]
      omega
    have low : isLowSurrogate c.toNat = false := by
      simp only [isLowSurrogate, Bool.and_eq_false_iff, decide_eq_false_iff_not]
      omega
    unfold charsOfCodes?
    simp [high, low, ih]

theorem string?_text (text : String) (rest : List Char) :
    string? (text.toList.flatMap escape ++ '"' :: rest) = some (some text, rest) := by
  rw [string?, stringCodes_text, Option.map_some]
  simp only [charsOfCodes?_map_toNat, Option.map_some, String.ofList_toList]

/-! ### One step of reading -/

section

variable {fuel : Nat} {body rest more behind : List Char}

-- A list or table with something in it is not taken for an empty one, because nothing that can be
-- read begins with the bracket that closes it.
theorem items?_close (fuel : Nat) (more : List Char) : items? fuel (']' :: more) = none := by
  cases fuel with
  | zero => rfl
  | succ fuel =>
    cases fuel with
    | zero => rfl
    | succ fuel => simp [items?, value?, unsigned?, digits?]

theorem entries?_close (fuel : Nat) (more : List Char) : entries? fuel ('}' :: more) = none := by
  cases fuel with
  | zero => rfl
  | succ fuel => simp [entries?]

theorem value?_list {items : List Datum}
    (read : items? fuel (skipBlanks body) = some (items, rest)) :
    value? (fuel + 1) ('[' :: body) = some (.list items, rest) := by
  simp only [value?]
  split
  next more closed =>
    rw [closed, items?_close] at read
    cases read
  next => rw [read, Option.map_some]

/-- Entries whose keys have been read. -/
def named (entries : List (String × Datum)) : List (Option String × Datum) :=
  entries.map fun entry => (some entry.1, entry.2)

theorem tableOf_named (entries : List (String × Datum)) :
    tableOf (named entries) = .table entries := by
  rw [tableOf, named, mapM_written]
  exact fun _ => rfl

theorem value?_table {entries : List (String × Datum)}
    (read : entries? fuel (skipBlanks body) = some (named entries, rest)) :
    value? (fuel + 1) ('{' :: body) = some (.table entries, rest) := by
  simp only [value?]
  split
  next more closed =>
    rw [closed, entries?_close] at read
    cases read
  next => rw [read, Option.map_some, tableOf_named]

theorem items?_last {item : Datum} (read : value? fuel body = some (item, rest))
    (closes : skipBlanks rest = ']' :: behind) :
    items? (fuel + 1) body = some ([item], behind) := by
  simp only [items?, read, Option.bind_eq_bind, Option.bind_some, closes]

theorem items?_more {item : Datum} {items : List Datum}
    (read : value? fuel body = some (item, rest)) (comma : skipBlanks rest = ',' :: more)
    (others : items? fuel (skipBlanks more) = some (items, behind)) :
    items? (fuel + 1) body = some (item :: items, behind) := by
  simp only [items?, read, Option.bind_eq_bind, Option.bind_some, comma, others]

theorem entries?_last {key : String} {value : Datum} {text : List Char}
    (name : string? body = some (some key, rest)) (colon : skipBlanks rest = ':' :: text)
    (read : value? fuel (skipBlanks text) = some (value, more))
    (closes : skipBlanks more = '}' :: behind) :
    entries? (fuel + 1) ('"' :: body) = some ([(some key, value)], behind) := by
  simp only [entries?, name, colon, read, Option.bind_eq_bind, Option.bind_some, closes]

theorem entries?_more {key : String} {value : Datum} {entries : List (Option String × Datum)}
    {text others : List Char} (name : string? body = some (some key, rest))
    (colon : skipBlanks rest = ':' :: text)
    (read : value? fuel (skipBlanks text) = some (value, more))
    (comma : skipBlanks more = ',' :: others)
    (later : entries? fuel (skipBlanks others) = some (entries, behind)) :
    entries? (fuel + 1) ('"' :: body) = some ((some key, value) :: entries, behind) := by
  simp only [entries?, name, colon, read, Option.bind_eq_bind, Option.bind_some, comma, later]

end

/-! ### Layouts -/

theorem skipBlanks_newLine (level : Nat) (rest : List Char) :
    skipBlanks (newLine level ++ rest) = skipBlanks rest := by
  have blank : ∀ c ∈ newLine level, isBlank c = true := by
    intro c member
    simp only [newLine, List.mem_cons, List.mem_replicate] at member
    rcases member with rfl | ⟨_, rfl⟩ <;> rfl
  exact List.dropWhile_append_of_pos blank

theorem length_newLine_pos (level : Nat) : 0 < (newLine level).length :=
  Nat.succ_pos _

theorem skipBlanks_pretty {datum : Datum} (textual : datum.Textual) (level : Nat)
    (rest : List Char) :
    skipBlanks (prettyChars level datum ++ rest) = prettyChars level datum ++ rest := by
  cases textual with
  | text value => rfl
  | @list items _ => cases items <;> rfl
  | @table entries _ => cases entries <;> rfl

/-- A value is read from its layout, whatever follows it. -/
def ReadsBack (datum : Datum) : Prop :=
  ∀ level fuel rest, 2 * (prettyChars level datum).length ≤ fuel →
    value? fuel (prettyChars level datum ++ rest) = some (datum, rest)

/-- Items on lines of their own are read one after another, each as it reads by itself. -/
theorem items?_pretty {item : Datum} {items : List Datum}
    (textual : ∀ given ∈ item :: items, given.Textual)
    (reads : ∀ given ∈ item :: items, ReadsBack given) (level outer fuel : Nat) (rest : List Char)
    (enough : 2 * (prettyItems level (item :: items)).length < fuel) :
    items? fuel
        (skipBlanks (prettyItems level (item :: items) ++ (newLine outer ++ ']' :: rest))) =
      some (item :: items, rest) := by
  -- Each item begins on a new line, which pays for the step that reads the item.
  have broken := length_newLine_pos level
  obtain _ | fuel := fuel
  · cases enough
  induction items generalizing item fuel with
  | nil =>
    obtain ⟨first, -⟩ := List.forall_mem_cons.mp textual
    obtain ⟨readsFirst, -⟩ := List.forall_mem_cons.mp reads
    simp only [prettyItems, List.length_append] at enough ⊢
    rw [List.append_assoc, skipBlanks_newLine, skipBlanks_pretty first]
    refine items?_last (readsFirst level fuel _ (by omega)) ?_
    rw [skipBlanks_newLine]
    rfl
  | cons next items ih =>
    obtain ⟨first, textual⟩ := List.forall_mem_cons.mp textual
    obtain ⟨readsFirst, reads⟩ := List.forall_mem_cons.mp reads
    simp only [prettyItems, List.length_append, List.length_cons] at enough ⊢
    rw [List.append_assoc, List.append_assoc, skipBlanks_newLine, skipBlanks_pretty first]
    refine items?_more (readsFirst level fuel _ (by omega)) rfl ?_
    obtain _ | fuel := fuel
    · omega
    · exact ih textual reads fuel (by omega)

theorem ReadsBack.behind_colon {datum : Datum} (reads : ReadsBack datum) (textual : datum.Textual)
    {level fuel : Nat} (enough : 2 * (prettyChars level datum).length ≤ fuel) (rest : List Char) :
    value? fuel (skipBlanks (' ' :: (prettyChars level datum ++ rest))) = some (datum, rest) := by
  have blank : skipBlanks (' ' :: (prettyChars level datum ++ rest)) =
      skipBlanks (prettyChars level datum ++ rest) := rfl
  rw [blank, skipBlanks_pretty textual]
  exact reads level fuel rest enough

/-- So are entries, each value behind its key. -/
theorem entries?_pretty {entry : String × Datum} {entries : List (String × Datum)}
    (textual : ∀ given ∈ entry :: entries, given.2.Textual)
    (reads : ∀ given ∈ entry :: entries, ReadsBack given.2) (level outer fuel : Nat)
    (rest : List Char) (enough : 2 * (prettyEntries level (entry :: entries)).length < fuel) :
    entries? fuel
        (skipBlanks (prettyEntries level (entry :: entries) ++ (newLine outer ++ '}' :: rest))) =
      some (named (entry :: entries), rest) := by
  have broken := length_newLine_pos level
  obtain _ | fuel := fuel
  · cases enough
  -- The induction is on the entries; each step of reading costs fuel, each entry has text for it.
  induction entries generalizing entry fuel with
  | nil =>
    obtain ⟨key, value⟩ := entry
    obtain ⟨(first : value.Textual), -⟩ := List.forall_mem_cons.mp textual
    obtain ⟨(readsFirst : ReadsBack value), -⟩ := List.forall_mem_cons.mp reads
    simp only [prettyEntries, List.length_append, List.length_cons] at enough ⊢
    simp only [stringChars, List.append_assoc, skipBlanks_newLine, List.cons_append,
      List.nil_append]
    have closes : skipBlanks (newLine outer ++ '}' :: rest) = '}' :: rest := by
      rw [skipBlanks_newLine]
      rfl
    exact entries?_last (string?_text key _) rfl (readsFirst.behind_colon first (by omega) _) closes
  | cons next entries ih =>
    obtain ⟨key, value⟩ := entry
    obtain ⟨(first : value.Textual), textual⟩ := List.forall_mem_cons.mp textual
    obtain ⟨(readsFirst : ReadsBack value), reads⟩ := List.forall_mem_cons.mp reads
    simp only [prettyEntries, List.length_append, List.length_cons] at enough ⊢
    simp only [stringChars, List.append_assoc, skipBlanks_newLine, List.cons_append,
      List.nil_append]
    obtain _ | fuel := fuel
    · omega
    · have later := ih textual reads fuel (by omega)
      exact entries?_more (string?_text key _) rfl (readsFirst.behind_colon first (by omega) _) rfl
        later

/-- A tree of texts is read from its layout, by induction over the tree. -/
theorem readsBack_of_textual {datum : Datum} (textual : datum.Textual) : ReadsBack datum := by
  induction textual with
  | text value =>
    intro level fuel rest enough
    obtain _ | fuel := fuel
    · cases enough
    have shape : prettyChars level (.text value) ++ rest =
        '"' :: (value.toList.flatMap escape ++ '"' :: rest) := by
      simp [prettyChars, compactChars, stringChars]
    rw [shape]
    simp only [value?, string?_text, Option.map_some, Option.getD_some]
  | @list items textual reads =>
    intro level fuel rest enough
    obtain _ | fuel := fuel
    · cases items <;> cases enough
    cases items with
    | nil => rfl
    | cons item items =>
      simp only [prettyChars, List.length_append, List.length_cons, List.append_assoc,
        List.cons_append, List.nil_append] at enough ⊢
      exact value?_list (items?_pretty textual reads (level + 1) level fuel rest (by omega))
  | @table entries textual reads =>
    intro level fuel rest enough
    obtain _ | fuel := fuel
    · cases entries <;> cases enough
    cases entries with
    | nil => rfl
    | cons entry entries =>
      simp only [prettyChars, List.length_append, List.length_cons, List.append_assoc,
        List.cons_append, List.nil_append] at enough ⊢
      exact value?_table (entries?_pretty textual reads (level + 1) level fuel rest (by omega))

/-- A tree of texts is read back from a page on which it is laid out. -/
theorem parse?_pretty {datum : Datum} (textual : datum.Textual) :
    parse? (pretty datum ++ "\n") = some datum := by
  have chars : (pretty datum ++ "\n").toList = prettyChars 0 datum ++ ['\n'] := by
    simp [pretty]
  have enough : 2 * (prettyChars 0 datum).length ≤
      2 * (prettyChars 0 datum ++ ['\n']).length + 2 := by
    rw [List.length_append]
    omega
  have read := readsBack_of_textual textual 0 _ ['\n'] enough
  unfold parse?
  rw [chars]
  simp only [skipBlanks_pretty textual, read]
  rfl

end Json

end VendorSql
