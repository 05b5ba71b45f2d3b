import VendorSql.Proofs.QualifiedNames
import VendorSql.Statement
import Mathlib.Data.List.Basic

/-!
# Reading lock statements back

A database takes a statement that locks tables apart into words, identifiers between quotes and
symbols, and finds in it one clause for each table. Read in this way, the statement that is written
for a list of tables has a clause for each of them, in order and as often as it is named, and
nothing else: what stands inside the quotes of a name is not looked at, and a name without quotes is
a plain word that is no keyword.
-/
namespace VendorSql

/-! ### Lexemes -/

/-- A word, a name between identifier quotes, or any other character that is no blank. -/
inductive Lexeme where
  | word (letters : String)
  | quoted (name : String)
  | symbol (c : Char)
  deriving Repr, DecidableEq

/-- Where a reader stands: outside of quotes, after the letters of a word that may go on, or between
quotes, after a part of a name. -/
inductive LexemeState where
  | outside (letters : List Char)
  | inside (name : List Char)

namespace Lexeme

/-- The only text that is read as the lexeme. -/
def text (quotes : IdentifierQuotes) : Lexeme → String
  | word letters => letters
  | quoted name => quotes.enclose name
  | symbol c => String.ofList [c]

def ended (letters : List Char) : List Lexeme :=
  if letters = [] then [] else [.word (String.ofList letters)]

/-- The lexemes of a text whose first `skip` characters belong to what has been read; none if a
quote is opened and not closed. -/
def lexFrom? (opening quote : Char) : Nat → LexemeState → List Char → Option (List Lexeme)
  | _, .outside letters, [] => some (ended letters)
  | _, .inside _, [] => none
  | skip + 1, state, _ :: rest => lexFrom? opening quote skip state rest
  | 0, .outside letters, c :: rest =>
    if c = opening then (lexFrom? opening quote 0 (.inside []) rest).map (ended letters ++ ·)
    else if continuesIdentifier c then lexFrom? opening quote 0 (.outside (letters ++ [c])) rest
    else if Text.isBlank c then
      (lexFrom? opening quote 0 (.outside []) rest).map (ended letters ++ ·)
    else (lexFrom? opening quote 0 (.outside []) rest).map (ended letters ++ .symbol c :: ·)
  | 0, .inside name, c :: rest =>
    if c = quote then
      -- Two quotes in a row are one that belongs to the name.
      if rest.head? = some quote then lexFrom? opening quote 1 (.inside (name ++ [quote])) rest
      else (lexFrom? opening quote 0 (.outside []) rest).map (.quoted (String.ofList name) :: ·)
    else lexFrom? opening quote 0 (.inside (name ++ [c])) rest

def lex? (opening quote : Char) (text : List Char) : Option (List Lexeme) :=
  lexFrom? opening quote 0 (.outside []) text

/-- Words are the same in any case. -/
def same : Lexeme → Lexeme → Bool
  | word letters, word letters' => Text.equalIgnoringCase letters letters'
  | left, right => left == right

/-- What follows the lexemes of `wanted`. -/
def strip? : List Lexeme → List Lexeme → Option (List Lexeme)
  | [], rest => some rest
  | _ :: _, [] => none
  | wanted :: more, given :: rest => if wanted.same given then strip? more rest else none

end Lexeme

/-- Where the names stand in a statement that locks tables. -/
structure LockForm where
  /-- Once, at the beginning. -/
  opening : List Lexeme := []
  before : List Lexeme := []
  behind : List Lexeme
  between : List Lexeme := []
  /-- Once, at the end. -/
  closing : List Lexeme := []

/-- How a vendor locks tables: SQL Server by queries that hold a lock, PostgreSQL by a statement for
each table, MySQL by one statement for all. -/
def Vendor.lockForm? : Vendor → Option LockForm
  | sqlServer => some
    { before := [.word "SELECT", .word "top", .word "0", .symbol '*', .word "FROM"]
      behind := [.word "WITH", .symbol '(', .word "UPDLOCK", .symbol ',', .word "HOLDLOCK",
        .symbol ')', .symbol ';'] }
  | postgreSql => some
    { before := [.word "LOCK", .word "TABLE"]
      behind := [.word "IN", .word "ACCESS", .word "EXCLUSIVE", .word "MODE", .symbol ';'] }
  | mySql => some
    { opening := [.word "LOCK", .word "TABLES"]
      behind := [.word "WRITE"]
      between := [.symbol ',']
      closing := [.symbol ';'] }
  | generic => none

namespace Profile

open Lexeme (lex? strip?)

/-- Whether a lexeme is an identifier: a name between quotes, or a plain word that is not
reserved. -/
def isIdentifierLexeme (profile : Profile) : Lexeme → Bool
  | .word letters => isPlainIdentifier letters && !profile.isReserved letters
  | .quoted name => name ≠ ""
  | .symbol _ => false

/-- Reads the name of a table, an identifier or two with the separator between them: its lexemes,
and what follows it. -/
def readTable? (profile : Profile) : List Lexeme → Option (List Lexeme × List Lexeme)
  | [] => none
  | first :: rest =>
    let separator := profile.separator.toList.map Lexeme.symbol
    if profile.isIdentifierLexeme first then
      match strip? separator rest with
      | none => some ([first], rest)
      | some [] => none
      | some (second :: rest) =>
        if profile.isIdentifierLexeme second then some (first :: separator ++ [second], rest)
        else none
    else none

/-- Reads one clause after another up to the end of the statement: the names in them. -/
def readClauses? (profile : Profile) (form : LockForm) :
    Nat → List Lexeme → Option (List (List Lexeme))
  | 0, _ => none
  | fuel + 1, lexemes => do
    let (table, rest) ← profile.readTable? (← strip? form.before lexemes)
    let rest ← strip? form.behind rest
    if rest = form.closing then some [table]
    else
      let tables ← profile.readClauses? form fuel (← strip? form.between rest)
      some (table :: tables)

/-- The names of the tables that a statement locks, as they are written in it. A clause takes a
lexeme at least, so the number of lexemes bounds that of the clauses. -/
def readLocks? (profile : Profile) (statement : String) : Option (List String) := do
  let form ← profile.grammar.bind Vendor.lockForm?
  let [opening] := profile.quotes.opening.toList | none
  let [quote] := profile.quotes.closing.toList | none
  let lexemes ← lex? opening quote statement.toList
  let tables ← profile.readClauses? form lexemes.length (← strip? form.opening lexemes)
  some (tables.map fun table => String.join (table.map (Lexeme.text profile.quotes)))

end Profile

/-! ### Texts as lexemes -/

namespace Lexeme

variable {opening quote : Char}

theorem strip?_append (wanted rest : List Lexeme) : strip? wanted (wanted ++ rest) = some rest := by
  induction wanted with
  | nil => rfl
  | cons lexeme wanted ih =>
    have itself : lexeme.same lexeme = true := by
      cases lexeme <;> simp [same]
    rw [List.cons_append, strip?, if_pos itself, ih]

theorem lexFrom?_ended {rest : List Char} (ends : ∀ c ∈ rest.head?, continuesIdentifier c = false)
    (letters : List Char) :
    lexFrom? opening quote 0 (.outside letters) rest =
      (lex? opening quote rest).map (ended letters ++ ·) := by
  cases rest with
  | nil => simp [lex?, lexFrom?, ended]
  | cons c rest =>
    have other := ends c rfl
    simp only [lex?, lexFrom?, other, Bool.false_eq_true, if_false]
    split_ifs <;> simp [Option.map_map, Function.comp_def, ended]

theorem lexFrom?_word (unplain : continuesIdentifier opening = false) {word : List Char}
    (plain : ∀ c ∈ word, continuesIdentifier c = true) (letters rest : List Char) :
    lexFrom? opening quote 0 (.outside letters) (word ++ rest) =
      lexFrom? opening quote 0 (.outside (letters ++ word)) rest := by
  induction word generalizing letters with
  | nil => simp
  | cons c word ih =>
    obtain ⟨first, others⟩ := List.forall_mem_cons.mp plain
    have unopened : c ≠ opening := by
      rintro rfl
      rw [unplain] at first
      cases first
    rw [List.cons_append, lexFrom?, if_neg unopened, if_pos first, ih others]
    simp

/-- A name between quotes is one lexeme, with every doubled quote read once. -/
theorem lexFrom?_double {rest : List Char} (apart : rest.head? ≠ some quote)
    (name done : List Char) :
    lexFrom? opening quote 0 (.inside done)
        (IdentifierQuotes.double [quote] name ++ quote :: rest) =
      (lex? opening quote rest).map (.quoted (String.ofList (done ++ name)) :: ·) := by
  induction name generalizing done with
  | nil => simp [IdentifierQuotes.double_single, lexFrom?, apart, lex?]
  | cons c name ih =>
    rw [IdentifierQuotes.double_cons]
    by_cases same : c = quote
    · subst same
      -- The second quote is passed over.
      have twice : lexFrom? opening c 0 (.inside done)
          (c :: c :: (IdentifierQuotes.double [c] name ++ c :: rest)) =
            lexFrom? opening c 0 (.inside (done ++ [c]))
              (IdentifierQuotes.double [c] name ++ c :: rest) := by
        simp [lexFrom?]
      simp only [if_true, List.cons_append, List.nil_append, twice, ih]
      simp
    · simp only [if_neg same, List.cons_append, List.nil_append, lexFrom?]
      rw [ih]
      simp

theorem join_symbols (quotes : IdentifierQuotes) (spelled : String) :
    String.join ((spelled.toList.map symbol).map (text quotes)) = spelled := by
  rw [← String.toList_inj]
  simp [text, List.flatMap_map]

theorem lex?_symbols {symbols : List Char}
    (bare : ∀ c ∈ symbols, c ≠ opening ∧ continuesIdentifier c = false ∧ Text.isBlank c = false)
    (rest : List Char) :
    lex? opening quote (symbols ++ rest) =
      (lex? opening quote rest).map (symbols.map symbol ++ ·) := by
  induction symbols with
  | nil => simp
  | cons c symbols ih =>
    obtain ⟨⟨unopened, unplain, visible⟩, others⟩ := List.forall_mem_cons.mp bare
    have later := ih others
    unfold lex? at later ⊢
    simp [lexFrom?, unopened, unplain, visible, later, ended, Option.map_map, Function.comp_def]

/-- A text without names is read by itself if no word goes on behind it. -/
theorem lexFrom?_append {text letters : List Char} (unopened : opening ∉ text)
    (started : text = [] → letters = [])
    (ends : ∀ c ∈ text.getLast?, continuesIdentifier c = false) {lexemes : List Lexeme}
    (read : lexFrom? opening quote 0 (.outside letters) text = some lexemes) (rest : List Char) :
    lexFrom? opening quote 0 (.outside letters) (text ++ rest) =
      (lex? opening quote rest).map (lexemes ++ ·) := by
  induction text generalizing letters lexemes with
  | nil =>
    obtain rfl := started rfl
    cases read
    simp [ended, lex?]
  | cons c text ih =>
    obtain ⟨other, unopened⟩ := not_or.mp (List.mem_cons.not.mp unopened)
    have last (d : Char) (final : d ∈ text.getLast?) : continuesIdentifier d = false := by
      apply ends d
      rw [List.getLast?_cons, Option.mem_def.mp final]
      rfl
    simp only [lexFrom?, List.cons_append, if_neg (Ne.symm other)] at read ⊢
    split
    next inWord =>
      rw [if_pos inWord] at read
      -- The letter is not the last one, because a text does not end in a word.
      have more : text ≠ [] := by
        rintro rfl
        rw [ends c rfl] at inWord
        cases inWord
      exact ih unopened (fun none => absurd none more) last read
    next outOfWord =>
      rw [if_neg outOfWord] at read
      split at read
      all_goals
        obtain ⟨behind, later, rfl⟩ := Option.map_eq_some_iff.mp read
        rw [ih unopened (fun _ => rfl) last later]
        simp [Option.map_map, Function.comp_def, *]

end Lexeme

/-! ### Names as lexemes -/

namespace Profile

open Lexeme (lex? lexFrom? strip?)

/-- The lexemes that the name of a table consists of, for a reader who knows the quotes. -/
structure TableLexemes (profile : Profile) (opening quote : Char) (name : String)
    (lexemes : List Lexeme) : Prop where
  spelled : String.join (lexemes.map (Lexeme.text profile.quotes)) = name
  lexed : ∀ rest, IdentifierQuotes.Apart opening quote rest →
    lex? opening quote (name.toList ++ rest) = (lex? opening quote rest).map (lexemes ++ ·)
  recognized : ∀ rest, strip? (profile.separator.toList.map .symbol) rest = none →
    profile.readTable? (lexemes ++ rest) = some (lexemes, rest)

variable {profile : Profile} {opening quote : Char}

theorem continuesIdentifier_of_mem_plain {name : String} (plain : isPlainIdentifier name = true) :
    ∀ c ∈ name.toList, continuesIdentifier c = true := by
  unfold isPlainIdentifier at plain
  cases letters : name.toList with
  | nil => simp
  | cons c rest =>
    rw [letters, isPlainChars, Bool.and_eq_true, List.all_eq_true] at plain
    exact List.forall_mem_cons.mpr ⟨continuesIdentifier_of_begins plain.1, plain.2⟩

/-- A quoted name is one lexeme, and an identifier, in front of anything that is apart from it. -/
theorem lex?_quoteName (quotes : profile.QuotesWith opening quote)
    (unplain : continuesIdentifier opening = false) {name : String} (given : name ≠ "")
    (bare : profile.quotes.encloses name = false) :
    ∃ lexeme, profile.isIdentifierLexeme lexeme = true ∧
      lexeme.text profile.quotes = profile.quoteName name ∧
      ∀ rest, IdentifierQuotes.Apart opening quote rest →
        lex? opening quote ((profile.quoteName name).toList ++ rest) =
          (lex? opening quote rest).map (lexeme :: ·) := by
  have folds : profile.options.foldCase name ≠ "" := by
    rwa [Ne, CommonOptions.foldCase_eq_empty_iff]
  rw [quoteName_of_bare bare]
  generalize profile.options.foldCase name = folded at folds ⊢
  unfold quoteFolded
  rw [if_neg folds]
  split
  next =>
    refine ⟨.quoted folded, by simpa [isIdentifierLexeme] using folds, rfl, ?_⟩
    intro rest apart
    have unquoted : rest.head? ≠ some quote := fun first => (apart quote first).2.1 rfl
    have shape : (profile.quoteIdentifier folded).toList ++ rest =
        opening :: (IdentifierQuotes.double [quote] folded.toList ++ quote :: rest) := by
      simp [quoteIdentifier, IdentifierQuotes.enclose, quotes.opens, quotes.closes]
    rw [shape, lex?, lexFrom?, if_pos rfl, Lexeme.lexFrom?_double unquoted]
    simp [Lexeme.ended, Option.map_map, Function.comp_def]
  next unquoted =>
    have settled : profile.isReserved folded = false ∧ isPlainIdentifier folded = true := by
      simp only [Bool.or_eq_true, Bool.not_eq_true', not_or, Bool.not_eq_false,
        Bool.not_eq_true] at unquoted
      exact ⟨unquoted.1.2, unquoted.2⟩
    refine ⟨.word folded, by simp [isIdentifierLexeme, settled], rfl, ?_⟩
    intro rest apart
    have inside := continuesIdentifier_of_mem_plain settled.2
    have present : folded.toList ≠ [] := by simpa using folds
    -- The word ends with the name, since the rest does not go on with it.
    rw [lex?, Lexeme.lexFrom?_word unplain inside, List.nil_append,
      Lexeme.lexFrom?_ended fun c first => (apart c first).2.2]
    simp [Lexeme.ended, present]

/-- A qualified name has lexemes that are read back as the name of a table. -/
theorem exists_tableLexemes (separates : profile.SeparatesWith opening quote)
    (unplain : continuesIdentifier opening = false)
    (bare : ∀ c ∈ profile.separator.toList,
      c ≠ opening ∧ continuesIdentifier c = false ∧ Text.isBlank c = false)
    {schema : Option String} {table : String} (given : table ≠ "")
    (unquoted : profile.Bare schema table) :
    ∃ lexemes, profile.TableLexemes opening quote (profile.qualifiedName schema table) lexemes := by
  obtain ⟨last, identifies, written, read⟩ :=
    lex?_quoteName separates.toQuotesWith unplain given unquoted.2
  cases inSchema : nonEmpty schema with
  | none =>
    have name : profile.qualifiedName schema table = profile.quoteName table := by
      simp only [qualifiedName, inSchema]
    rw [name]
    refine ⟨[last], by simp [written], read, ?_⟩
    intro rest apart
    simp [readTable?, identifies, apart]
  | some schemaName =>
    have present : schemaName ≠ "" := by
      simpa using (Option.filter_eq_some_iff.mp inSchema).2
    obtain ⟨first, identifies', written', read'⟩ := lex?_quoteName separates.toQuotesWith unplain
      present (unquoted.1 schemaName (mem_of_nonEmpty inSchema))
    have name : profile.qualifiedName schema table =
        profile.quoteName schemaName ++ (profile.separator ++ profile.quoteName table) := by
      simp only [qualifiedName, inSchema, combine, String.append_assoc]
    rw [name]
    refine ⟨first :: (profile.separator.toList.map .symbol ++ [last]), ?_, ?_, ?_⟩
    · simp only [List.map_cons, List.map_append, List.map_nil, String.join_cons,
        String.join_append, String.join_nil, String.append_empty, written, written',
        Lexeme.join_symbols]
    · intro rest apart
      -- The separator ends the schema for any reader, and is no identifier itself.
      have behind := separates.apart ((profile.quoteName table).toList ++ rest)
      rw [String.toList_append, String.toList_append, List.append_assoc, List.append_assoc,
        read' _ behind, Lexeme.lex?_symbols bare, read rest apart]
      simp [Option.map_map, Function.comp_def]
    · intro rest _
      simp [readTable?, identifies, identifies', Lexeme.strip?_append]

end Profile

/-! ### Statements -/

structure LockTexts where
  opening : String := ""
  before : String := ""
  /-- Between a name and the clause of the next one. -/
  next : String
  /-- Behind the last name. -/
  last : String

namespace LockTexts

def clauses (texts : LockTexts) : List String → String
  | [] => ""
  | [table] => texts.before ++ table ++ texts.last
  | table :: following :: tables =>
    texts.before ++ table ++ texts.next ++ texts.clauses (following :: tables)

/-- A text is read as these lexemes, whatever follows it. -/
def Spelled (opening quote : Char) (text : String) (lexemes : List Lexeme) : Prop :=
  ∀ rest, Lexeme.lex? opening quote (text.toList ++ rest) =
    (Lexeme.lex? opening quote rest).map (lexemes ++ ·)

theorem spelled_of_lex? {opening quote : Char} {text : String} {lexemes : List Lexeme}
    (unopened : opening ∉ text.toList)
    (ends : (text.toList.getLast?.all fun c => !continuesIdentifier c) = true)
    (read : Lexeme.lex? opening quote text.toList = some lexemes) :
    Spelled opening quote text lexemes := by
  have last : ∀ c ∈ text.toList.getLast?, continuesIdentifier c = false := by
    intro c last
    rw [Option.mem_def.mp last] at ends
    simpa using ends
  exact Lexeme.lexFrom?_append unopened (fun _ => rfl) last read

/-- The texts around the names are read as the form has it, and a name ends in front of them. -/
structure Spells (texts : LockTexts) (form : LockForm) (opening quote : Char) : Prop where
  opens : Spelled opening quote texts.opening form.opening
  before : Spelled opening quote texts.before form.before
  next : Spelled opening quote texts.next (form.behind ++ form.between)
  last : Spelled opening quote texts.last (form.behind ++ form.closing)
  apart : ∀ text ∈ [texts.next, texts.last], ∀ rest,
    IdentifierQuotes.Apart opening quote (text.toList ++ rest)
  worded : ∃ letters more, form.behind = .word letters :: more
  ends : form.closing.length ≤ form.between.length

theorem spells_of_lex? {texts : LockTexts} {form : LockForm} {opening quote : Char}
    (whole : ∀ text ∈ [texts.opening, texts.before, texts.next, texts.last],
      opening ∉ text.toList ∧ (text.toList.getLast?.all fun c => !continuesIdentifier c) = true)
    (read : [texts.opening, texts.before, texts.next, texts.last].map
        (fun text => Lexeme.lex? opening quote text.toList) =
      [some form.opening, some form.before, some (form.behind ++ form.between),
        some (form.behind ++ form.closing)])
    (spaced : ∀ text ∈ [texts.next, texts.last], text.toList.head? = some ' ')
    (visible : opening ≠ ' ' ∧ quote ≠ ' ')
    (worded : ∃ letters more, form.behind = .word letters :: more)
    (ends : form.closing.length ≤ form.between.length) : texts.Spells form opening quote := by
  simp only [List.map_cons, List.map_nil, List.cons.injEq, and_true] at read
  simp only [List.forall_mem_cons] at whole
  obtain ⟨⟨opens, opens'⟩, ⟨before, before'⟩, ⟨next, next'⟩, ⟨last, last'⟩, -⟩ := whole
  obtain ⟨readOpening, readBefore, readNext, readLast⟩ := read
  refine ⟨spelled_of_lex? opens opens' readOpening, spelled_of_lex? before before' readBefore,
    spelled_of_lex? next next' readNext, spelled_of_lex? last last' readLast, ?_, worded, ends⟩
  intro text member rest c first
  have space := spaced text member
  have blank : continuesIdentifier ' ' = false := by decide +kernel
  -- The first character behind a name is a space.
  cases letters : text.toList with
  | nil => simp [letters] at space
  | cons d more =>
    simp only [letters, List.head?_cons, Option.some_inj] at space
    simp only [letters, List.cons_append, List.head?_cons, Option.mem_def, Option.some_inj] at first
    subst first space
    exact ⟨visible.1.symm, visible.2.symm, blank⟩

variable {texts : LockTexts} {form : LockForm} {profile : Profile} {opening quote : Char}

theorem Spells.ended (spells : texts.Spells form opening quote)
    (present : profile.separator.toList ≠ []) (rest : List Lexeme) :
    Lexeme.strip? (profile.separator.toList.map .symbol) (form.behind ++ rest) = none := by
  obtain ⟨letters, more, behind⟩ := spells.worded
  obtain ⟨c, others, separator⟩ := List.exists_cons_of_ne_nil present
  simp [behind, separator, Lexeme.strip?, Lexeme.same]

/-- Where every clause ends alike, the clauses stand one behind another. -/
theorem clauses_eq_join (texts : LockTexts) (alike : texts.next = texts.last)
    (tables : List String) :
    texts.clauses tables =
      String.join (tables.map fun table => texts.before ++ table ++ texts.last) := by
  induction tables with
  | nil => rfl
  | cons table tables ih =>
    cases tables with
    | nil => simp [clauses]
    | cons next tables => simp only [clauses, ih, alike, List.map_cons, String.join_cons]

/-- Where a separator stands between the clauses, they are joined by it. -/
theorem clauses_eq_intercalate (texts : LockTexts) {behind between ending : String}
    (bare : texts.before = "") (next : texts.next = behind ++ between)
    (last : texts.last = behind ++ ending) {tables : List String} (given : tables ≠ []) :
    texts.clauses tables =
      String.intercalate between (tables.map fun table => table ++ behind) ++ ending := by
  induction tables with
  | nil => exact absurd rfl given
  | cons table tables ih =>
    cases tables with
    | nil => simp [clauses, bare, last, String.append_assoc]
    | cons next' tables =>
      rw [clauses, ih (by simp), bare, next]
      simp [String.append_assoc]

/-- One clause has the lexemes of its form around those of its name. -/
theorem Spells.lex?_clause (spells : texts.Spells form opening quote) {table text : String}
    {name lexemes : List Lexeme} (named : profile.TableLexemes opening quote table name)
    (follows : text ∈ [texts.next, texts.last]) (spelled : Spelled opening quote text lexemes)
    (rest : String) :
    Lexeme.lex? opening quote (texts.before ++ table ++ text ++ rest).toList =
      (Lexeme.lex? opening quote rest.toList).map
        fun more => form.before ++ (name ++ (lexemes ++ more)) := by
  simp only [String.toList_append, List.append_assoc]
  rw [spells.before _, named.lexed _ (spells.apart text follows _), spelled _]
  simp [Option.map_map, Function.comp_def]

/-- All clauses are read back, by induction over the tables. -/
theorem Spells.read_clauses (spells : texts.Spells form opening quote)
    (present : profile.separator.toList ≠ []) {tables : List String} (given : tables ≠ [])
    (named : ∀ table ∈ tables, ∃ lexemes, profile.TableLexemes opening quote table lexemes) :
    ∃ lexemes parsed, Lexeme.lex? opening quote (texts.clauses tables).toList = some lexemes ∧
      tables.length ≤ lexemes.length ∧
      (∀ fuel, tables.length ≤ fuel → profile.readClauses? form fuel lexemes = some parsed) ∧
      parsed.map (fun table => String.join (table.map (Lexeme.text profile.quotes))) = tables := by
  have behind := spells.ended present
  have kept : 0 < form.behind.length := by
    obtain ⟨letters, more, worded⟩ := spells.worded
    rw [worded]
    exact Nat.succ_pos _
  induction tables with
  | nil => exact absurd rfl given
  | cons table tables ih =>
    obtain ⟨⟨name, first⟩, others⟩ := List.forall_mem_cons.mp named
    cases tables with
    | nil =>
      have read := spells.lex?_clause first (by simp) spells.last ""
      have none : Lexeme.lex? opening quote "".toList = some [] := rfl
      rw [String.append_empty, none, Option.map_some, List.append_nil] at read
      refine ⟨_, [name], read, ?_, ?_, by simp [first.spelled]⟩
      · simp only [List.length_append, List.length_cons, List.length_nil]
        omega
      · intro fuel enough
        obtain _ | fuel := fuel
        · cases enough
        · simp [Profile.readClauses?, Lexeme.strip?_append, first.recognized _ (behind _)]
    | cons next tables =>
      obtain ⟨later, parsed, read, longer, reads, spelled⟩ := ih (by simp) others
      have whole := spells.lex?_clause first (by simp) spells.next (texts.clauses (next :: tables))
      rw [read, Option.map_some] at whole
      rw [List.length_cons] at longer
      refine ⟨_, name :: parsed, whole, ?_, ?_, by simp [first.spelled, spelled]⟩
      · simp only [List.length_append, List.length_cons]
        omega
      · intro fuel enough
        obtain _ | fuel := fuel
        · cases enough
        -- More follows than the end of the statement.
        have more : form.between ++ later ≠ form.closing := by
          intro same
          have short := spells.ends
          rw [← same, List.length_append] at short
          omega
        have rest := reads fuel (Nat.le_of_succ_le_succ enough)
        simp [Profile.readClauses?, Lexeme.strip?_append, first.recognized _ (behind _), more, rest]

end LockTexts

/-! ### Built-in profiles -/

namespace Vendor

/-- What the vendors write around the names. The generic one locks no tables. -/
def lockTexts : Vendor → LockTexts
  | sqlServer =>
    { before := "SELECT top 0 * FROM "
      next := " WITH (UPDLOCK, HOLDLOCK);\n"
      last := " WITH (UPDLOCK, HOLDLOCK);\n" }
  | postgreSql =>
    { before := "LOCK TABLE "
      next := " IN ACCESS EXCLUSIVE MODE;\n"
      last := " IN ACCESS EXCLUSIVE MODE;\n" }
  | mySql => { opening := "LOCK TABLES ", next := " WRITE, ", last := " WRITE;" }
  | generic => { next := "", last := "" }

theorem lockTables?_eq {vendor : Vendor} (locks : vendor ≠ .generic) (settings : Settings)
    {tables : List String} (given : tables ≠ []) :
    (vendor.profile settings).lockTables? tables =
      some (vendor.lockTexts.opening ++ vendor.lockTexts.clauses tables) := by
  rw [Profile.lockTables?, if_neg given, profile_grammar]
  -- Two vendors end every clause alike, one puts commas between them.
  cases vendor with
  | sqlServer =>
    have joined := sqlServer.lockTexts.clauses_eq_join rfl tables
    exact congrArg some (joined.symm.trans String.empty_append.symm)
  | postgreSql =>
    have joined := postgreSql.lockTexts.clauses_eq_join rfl tables
    exact congrArg some (joined.symm.trans String.empty_append.symm)
  | mySql =>
    have joined : mySql.lockTexts.clauses tables =
        String.intercalate ", " (tables.map fun table => table ++ " WRITE") ++ ";" :=
      mySql.lockTexts.clauses_eq_intercalate rfl rfl rfl given
    rw [joined, ← String.append_assoc]
    rfl
  | generic => exact absurd rfl locks

/-- What each vendor writes around the names is what its form says. -/
theorem spells_lockTexts {vendor : Vendor} (locks : vendor ≠ .generic) (settings : Settings) :
    ∃ form opening quote, vendor.lockForm? = some form ∧
      vendor.lockTexts.Spells form opening quote ∧
      (vendor.profile settings).SeparatesWith opening quote ∧
      continuesIdentifier opening = false ∧
      ∀ c ∈ (vendor.profile settings).separator.toList,
        c ≠ opening ∧ continuesIdentifier c = false ∧ Text.isBlank c = false := by
  obtain ⟨opening, quote, separates⟩ := vendor.separates settings
  have opens := separates.opens
  have closes := separates.closes
  have bare : ∀ c ∈ (vendor.profile settings).separator.toList,
      c ≠ opening ∧ continuesIdentifier c = false ∧ Text.isBlank c = false := by
    have dotted : ∀ c ∈ (vendor.profile settings).separator.toList, c = '.' := by
      cases vendor with
      | sqlServer => cases double : settings.doubleSeparator <;> simp [profile, double]
      | postgreSql | mySql | generic => simp [profile]
    have undotted := (vendor.quotes_undotted settings).1
    rw [opens, List.mem_singleton] at undotted
    intro c member
    rw [dotted c member]
    exact ⟨undotted, by decide +kernel, by decide +kernel⟩
  cases vendor with
  | generic => exact absurd rfl locks
  -- The texts of a vendor are short and closed, so what the reader makes of them is worked out.
  | sqlServer | postgreSql | mySql =>
    simp only [profile, String.reduceToList, List.cons.injEq, and_true] at opens closes
    subst opens closes
    refine ⟨_, _, _, rfl, ?_, separates, by decide +kernel, bare⟩
    exact LockTexts.spells_of_lex? (by decide +kernel) (by decide +kernel) (by decide) (by decide)
      ⟨_, _, rfl⟩ (by decide)

end Vendor

namespace Profile

/-- A statement of such texts is read back as the tables it was made of. -/
theorem readLocks?_clauses {profile : Profile} {vendor : Vendor} {form : LockForm}
    {texts : LockTexts} {opening quote : Char} (speaks : profile.grammar = some vendor)
    (known : vendor.lockForm? = some form) (spells : texts.Spells form opening quote)
    (separates : profile.SeparatesWith opening quote) {tables : List String} (given : tables ≠ [])
    (named : ∀ table ∈ tables, ∃ lexemes, profile.TableLexemes opening quote table lexemes) :
    profile.readLocks? (texts.opening ++ texts.clauses tables) = some tables := by
  obtain ⟨lexemes, parsed, read, longer, reads, spelled⟩ :=
    spells.read_clauses separates.present given named
  have whole : Lexeme.lex? opening quote (texts.opening ++ texts.clauses tables).toList =
      some (form.opening ++ lexemes) := by
    rw [String.toList_append, spells.opens _, read, Option.map_some]
  have enough : tables.length ≤ (form.opening ++ lexemes).length := by
    rw [List.length_append]
    omega
  simp only [readLocks?, speaks, known, separates.opens, separates.closes, whole,
    Lexeme.strip?_append, reads _ enough, Option.bind_eq_bind, Option.bind_some, spelled]

theorem lockTables?_append {profile : Profile} {vendor : Vendor}
    (speaks : profile.grammar = some vendor) (each : vendor = .sqlServer ∨ vendor = .postgreSql)
    {first second : List String} (given : first ≠ []) (given' : second ≠ []) :
    ∃ statement statement', profile.lockTables? first = some statement ∧
      profile.lockTables? second = some statement' ∧
      profile.lockTables? (first ++ second) = some (statement ++ statement') := by
  have together : first ++ second ≠ [] := List.append_ne_nil_of_left_ne_nil given second
  rcases each with rfl | rfl
  all_goals
    simp only [lockTables?, speaks, if_neg given, if_neg given', if_neg together, List.map_append,
      String.join_append]
    exact ⟨_, _, rfl, rfl, rfl⟩

end Profile

/-- From the statement that locks a list of tables, exactly the names of these tables are read back,
in order, each from a clause of its own. Where each table has a statement of its own, the statement
for two lists is that for the one followed by that for the other. And where no table is named,
nothing is locked or unlocked. -/
theorem readLocks?_lockTables (vendor : Vendor) (settings : Settings) :
    let profile := vendor.profile settings
    (vendor ≠ .generic → ∀ tables : List (Option String × String), tables ≠ [] →
      (∀ table ∈ tables, table.2 ≠ "" ∧ profile.Bare table.1 table.2) →
      let names := tables.map fun table => profile.qualifiedName table.1 table.2
      ∃ statement, profile.lockTables? names = some statement ∧
        profile.readLocks? statement = some names) ∧
    (vendor = .sqlServer ∨ vendor = .postgreSql → ∀ first second, first ≠ [] → second ≠ [] →
      ∃ statement statement', profile.lockTables? first = some statement ∧
        profile.lockTables? second = some statement' ∧
        profile.lockTables? (first ++ second) = some (statement ++ statement')) ∧
    profile.lockTables? [] = none ∧ profile.unlockTables? [] = none := by
  intro profile
  have speaks : profile.grammar = some vendor := vendor.profile_grammar settings
  refine ⟨?_, ?_, rfl, rfl⟩
  · intro locks tables given bare names
    obtain ⟨form, opening, quote, known, spells, separates, unplain, apart⟩ :=
      Vendor.spells_lockTexts locks settings
    have named : ∀ name ∈ names, ∃ lexemes, profile.TableLexemes opening quote name lexemes := by
      intro name member
      obtain ⟨table, among, rfl⟩ := List.mem_map.mp member
      obtain ⟨present, unquoted⟩ := bare table among
      exact Profile.exists_tableLexemes separates unplain apart present unquoted
    have given' : names ≠ [] := by simpa [names] using given
    exact ⟨_, Vendor.lockTables?_eq locks settings given',
      Profile.readLocks?_clauses speaks known spells separates given' named⟩
  · intro each first second given given'
    exact Profile.lockTables?_append speaks each given given'

/-- Names with all that ends a clause inside: the closing quote, a keyword, a semicolon and a line
break. One of them is locked twice. -/
theorem readLocks?_lockTables_hostile :
    let profile := Vendor.mySql.profile {}
    let tables := [(some "db", "a` WRITE, b"), (none, "WRITE"), (none, "x;\nUNLOCK TABLES"),
      (none, "WRITE")]
    let names := tables.map fun table => profile.qualifiedName table.1 table.2
    (Vendor.mySql ≠ .generic ∧ tables ≠ [] ∧
      (∀ table ∈ tables, table.2 ≠ "" ∧ profile.Bare table.1 table.2) ∧
      names = ["db.`a`` WRITE, b`", "`WRITE`", "`x;\nUNLOCK TABLES`", "`WRITE`"] ∧
      ∃ statement, profile.lockTables? names = some statement ∧
        profile.readLocks? statement = some names) ∧
    (Vendor.postgreSql = .sqlServer ∨ Vendor.postgreSql = .postgreSql) ∧ ["a"] ≠ [] ∧
      ["b", "a"] ≠ [] ∧ ∃ statement statement',
        (Vendor.postgreSql.profile {}).lockTables? ["a"] = some statement ∧
        (Vendor.postgreSql.profile {}).lockTables? ["b", "a"] = some statement' ∧
        (Vendor.postgreSql.profile {}).lockTables? ["a", "b", "a"] =
          some (statement ++ statement') := by
  intro profile tables names
  have bare : ∀ table ∈ tables, table.2 ≠ "" ∧ profile.Bare table.1 table.2 := by
    simp only [tables, List.forall_mem_cons]
    refine ⟨⟨by decide, ?_, by decide +kernel⟩, ⟨by decide, ?_, by decide +kernel⟩,
      ⟨by decide, ?_, by decide +kernel⟩, ⟨by decide, ?_, by decide +kernel⟩, by simp⟩
    · rintro _ ⟨⟩
      decide +kernel
    all_goals
      intro _ absent
      cases absent
  obtain ⟨reads, -, -⟩ := readLocks?_lockTables .mySql {}
  obtain ⟨-, joins, -⟩ := readLocks?_lockTables .postgreSql {}
  exact ⟨⟨by decide, by decide, bare, by decide +kernel, reads (by decide) tables (by decide) bare⟩,
    .inr rfl, by decide, by decide, joins (.inr rfl) ["a"] ["b", "a"] (by decide) (by decide)⟩

end VendorSql
