import VendorSql.Proofs.Lexing
import VendorSql.Statement
import VendorSql.Vendor.Builtin
import Mathlib.Data.List.Basic

/-!
# Catalog queries keep their shape

A query to the catalog names schemas, tables and sequences as string literals. Read as the vendor
reads it, such a query has tokens that are fixed by the vendor, the kind of query and whether a
schema is given; an argument only ever decides the value of the literal that stands for it. So no
argument can end its literal early or add to the query. The fixed tokens are given by a frame, in
which the literals of the arguments are left open.
-/
namespace VendorSql

/-- A question to the catalog that names things. -/
inductive CatalogQuery where
  | procedures (schema : Option String)
  | indexColumns (schema : Option String) (table : String)
  | sequenceExists (sequence : String)
  | currentValue (sequence : String)
  | nextValue (sequence : String)
  deriving Repr, DecidableEq

inductive CatalogQuery.Shape where
  | procedures (inSchema : Bool)
  | indexColumns (inSchema : Bool)
  | sequenceExists
  | currentValue
  | nextValue
  deriving Repr, DecidableEq

namespace CatalogQuery

/-- The statement that asks the question, where there is one. -/
def sql? (profile : Profile) : CatalogQuery → Option String
  | procedures schema => profile.proceduresQuery? schema
  | indexColumns schema table => profile.indexColumnsQuery? schema table
  | sequenceExists sequence => profile.sequenceExistsQuery? sequence
  | currentValue sequence => profile.currentValueQuery? sequence
  | nextValue sequence => profile.nextValueQuery? sequence

/-- What is left of a question when only the presence of a schema counts. -/
def shape : CatalogQuery → Shape
  | procedures schema => .procedures (nonEmpty schema).isSome
  | indexColumns schema _ => .indexColumns (nonEmpty schema).isSome
  | sequenceExists _ => .sequenceExists
  | currentValue _ => .currentValue
  | nextValue _ => .nextValue

/-- The names that a vendor's statement holds as literals, in order. SQL Server lists procedures of
all schemas and looks for an index by the qualified name of its table. -/
def arguments (vendor : Vendor) (profile : Profile) : CatalogQuery → List String
  | procedures schema =>
    match vendor with
    | .sqlServer => []
    | _ => (nonEmpty schema).toList
  | indexColumns schema table =>
    match vendor with
    | .sqlServer => [profile.qualifiedName schema table]
    | _ => table :: (nonEmpty schema).toList
  | sequenceExists sequence | currentValue sequence | nextValue sequence => [sequence]

end CatalogQuery

/-- A statement with open places: the text up to the first literal, and for each literal its value,
none if it is open, with the text behind it. -/
structure Frame where
  opening : String
  slots : List (Option String × String) := []
  deriving Repr, DecidableEq

namespace Frame

/-- The literals of a frame when the open ones take the arguments in order. -/
def assign : List (Option String × String) → List String → List (String × String)
  | [], _ => []
  | (some value, behind) :: slots, arguments => (value, behind) :: assign slots arguments
  | (none, behind) :: slots, argument :: arguments => (argument, behind) :: assign slots arguments
  | (none, _) :: _, [] => []

def spell (style : LiteralStyle) (parts : List (String × String)) : String :=
  parts.foldr (fun part rest => style.quote part.1 ++ (part.2 ++ rest)) ""

/-- The statement with the arguments in the open places. -/
def fill (style : LiteralStyle) (frame : Frame) (arguments : List String) : String :=
  frame.opening ++ spell style (assign frame.slots arguments)

/-- The tokens of a frame, with one literal for each argument in the open places. -/
def tokens (style : LiteralStyle) (frame : Frame) (arguments : List String) : List Token :=
  style.tokens frame.opening ++
    (assign frame.slots arguments).flatMap fun part => .literal part.1 :: style.tokens part.2

def holes (frame : Frame) : Nat :=
  frame.slots.countP fun slot => slot.1.isNone

/-- Whether the texts behind literals can be told from them: a text between two literals has
characters, and no text goes on as the literal before it might. -/
def Separate (style : LiteralStyle) : List String → Prop
  | [] => True
  | [last] => '\'' ∉ last.toList ∧ style.Detached last.toList
  | text :: next :: rest =>
    '\'' ∉ text.toList ∧ text ≠ "" ∧ style.Detached text.toList ∧ Separate style (next :: rest)

theorem detached_append {style : LiteralStyle} {text : String} (present : text ≠ "")
    (detached : style.Detached text.toList) (rest : String) :
    style.Detached (text ++ rest).toList := by
  intro c first
  apply detached c
  cases letters : text.toList with
  | nil => exact absurd (String.toList_eq_nil_iff.mp letters) present
  | cons d letters' => simpa [letters] using first

/-- Literals between texts that can be told from them are read as exactly those literals. -/
theorem tokens_spell {style : LiteralStyle} (readable : style.Readable) {text : String}
    (quiet : '\'' ∉ text.toList) (parts : List (String × String))
    (separate : Separate style (parts.map Prod.snd)) :
    style.tokens (text ++ spell style parts) =
      style.tokens text ++ parts.flatMap fun part => .literal part.1 :: style.tokens part.2 := by
  -- The text behind one literal is the text in front of the next.
  induction parts generalizing text with
  | nil => simp [spell]
  | cons part parts ih =>
    -- Behind the literal comes its own text, or, if that is empty, the end of the statement.
    have apart : '\'' ∉ part.2.toList ∧ style.Detached (part.2 ++ spell style parts).toList ∧
        Separate style (parts.map Prod.snd) := by
      cases parts with
      | nil => exact ⟨separate.1, by simpa [spell] using separate.2, trivial⟩
      | cons next parts =>
        obtain ⟨still, present, detached, others⟩ := separate
        exact ⟨still, detached_append present detached _, others⟩
    obtain ⟨still, detached, others⟩ := apart
    calc style.tokens (text ++ spell style (part :: parts))
        = style.tokens (text ++ style.quote part.1 ++ (part.2 ++ spell style parts)) := by
          rw [String.append_assoc]; rfl
      _ = style.tokens text ++ .literal part.1 :: style.tokens (part.2 ++ spell style parts) :=
          LiteralStyle.tokens_literal readable quiet part.1 detached
      _ = _ := by rw [ih still others]; simp

/-- Filling the open places leaves the texts of a frame alone. -/
theorem assign_behind (slots : List (Option String × String)) (arguments : List String)
    (enough : (slots.countP fun slot => slot.1.isNone) = arguments.length) :
    (assign slots arguments).map Prod.snd = slots.map Prod.snd := by
  induction slots generalizing arguments with
  | nil => simp [assign]
  | cons slot slots ih =>
    obtain ⟨value, behind⟩ := slot
    -- A literal that is there stays; an open place takes the first argument that is left.
    cases value with
    | some value =>
      have rest := ih arguments (by simpa using enough)
      simp [assign, rest]
    | none =>
      cases arguments with
      | nil => simp at enough
      | cons argument arguments =>
        have rest := ih arguments (by simpa using enough)
        simp [assign, rest]

/-- A frame that is filled has the tokens of the frame, its arguments as whole literals. -/
theorem tokens_fill {style : LiteralStyle} (readable : style.Readable) {frame : Frame}
    (quiet : '\'' ∉ frame.opening.toList) (separate : Separate style (frame.slots.map Prod.snd))
    {arguments : List String} (enough : frame.holes = arguments.length) :
    style.tokens (frame.fill style arguments) = frame.tokens style arguments := by
  rw [← assign_behind frame.slots arguments enough] at separate
  exact tokens_spell readable quiet _ separate

end Frame

/-! ### The frames of the vendors -/

/-- The frame of a vendor's statement for a kind of question. The next value of a sequence is asked
for by name, not by a literal, except from PostgreSQL. -/
def Vendor.frame? : Vendor → CatalogQuery.Shape → Option Frame
  | .sqlServer, .procedures _ => some {
      opening := "select o.name from sysobjects o, sysusers u where xtype in ( "
      slots := [(some "FN", ", "),
        (some "P", " ) and o.uid = u.uid order by o.name")] }
  | .sqlServer, .indexColumns _ => some {
      opening := "select i.name table_name, c.name column_name " ++
        "from sysindexes i, sysindexkeys k, syscolumns c where i.name = "
      slots := [(none, " AND i.id = k.id AND i.id = c.id AND k.colid = c.colid")] }
  | .sqlServer, .sequenceExists => some {
      opening := "SELECT 1 FROM sys.sequences WHERE name = "
      slots := [(none, "")] }
  | .sqlServer, .currentValue => some {
      opening := "SELECT current_value FROM sys.sequences WHERE name = "
      slots := [(none, "")] }
  | .postgreSql, .procedures false => some {
      opening := "SELECT p.proname FROM pg_catalog.pg_proc p " ++
        "JOIN pg_catalog.pg_namespace n ON n.oid = p.pronamespace ORDER BY p.proname" }
  | .postgreSql, .procedures true => some {
      opening := "SELECT p.proname FROM pg_catalog.pg_proc p " ++
        "JOIN pg_catalog.pg_namespace n ON n.oid = p.pronamespace WHERE n.nspname = "
      slots := [(none, " ORDER BY p.proname")] }
  | .postgreSql, .indexColumns inSchema => some {
      opening := "SELECT a.attname AS column_name FROM pg_catalog.pg_index x " ++
        "JOIN pg_catalog.pg_class t ON t.oid = x.indrelid " ++
        "JOIN pg_catalog.pg_namespace n ON n.oid = t.relnamespace " ++
        "JOIN pg_catalog.pg_attribute a ON a.attrelid = t.oid AND a.attnum = ANY(x.indkey) " ++
        "WHERE t.relname = "
      slots := if inSchema then [(none, " AND n.nspname = "), (none, "")] else [(none, "")] }
  | .postgreSql, .sequenceExists => some {
      opening := "SELECT relname AS sequence_name FROM pg_catalog.pg_statio_all_sequences " ++
        "WHERE relname = "
      slots := [(none, "")] }
  | .postgreSql, .currentValue => some { opening := "SELECT currval(", slots := [(none, ")")] }
  | .postgreSql, .nextValue => some { opening := "SELECT nextval(", slots := [(none, ")")] }
  | .mySql, .procedures inSchema => some {
      opening := "SELECT ROUTINE_NAME FROM information_schema.ROUTINES WHERE ROUTINE_TYPE = "
      slots := if inSchema then [(some "PROCEDURE", " AND ROUTINE_SCHEMA = "), (none, "")]
        else [(some "PROCEDURE", "")] }
  | .mySql, .indexColumns inSchema => some {
      opening := "SELECT COLUMN_NAME AS column_name FROM information_schema.STATISTICS " ++
        "WHERE TABLE_NAME = "
      slots := if inSchema then [(none, " AND TABLE_SCHEMA = "), (none, "")]
        else [(none, " AND TABLE_SCHEMA = DATABASE()")] }
  | .sqlServer, .nextValue | .mySql, _ | .generic, _ => none

theorem quiet_ofList {letters : List Char} (quiet : letters.all (· ≠ '\'') = true) :
    '\'' ∉ (String.ofList letters).toList := by
  rw [String.toList_ofList]
  intro inside
  simpa using List.all_eq_true.mp quiet _ inside

/-- No vendor's statement has a quote in front of its first literal. -/
theorem frame_quiet {vendor : Vendor} {shape : CatalogQuery.Shape} {frame : Frame}
    (framed : vendor.frame? shape = some frame) : '\'' ∉ frame.opening.toList := by
  -- The openings are fixed texts, a few of them in several parts. A text is unified with the list
  -- of its letters, since reading the letters off it takes the kernel much longer.
  cases vendor <;> rcases shape with ⟨_ | _⟩ | ⟨_ | _⟩ | _ | _ | _ <;> cases framed <;>
    simp only [String.toList_append, List.mem_append, not_or] <;> and_intros <;>
    exact quiet_ofList (by decide +kernel)

/-- The texts between the literals of a vendor's statement are apart from them. -/
theorem frame_separate {vendor : Vendor} {shape : CatalogQuery.Shape} {frame : Frame}
    (settings : Settings) (framed : vendor.frame? shape = some frame) :
    Frame.Separate (vendor.profile settings).literals (frame.slots.map Prod.snd) := by
  -- Behind a literal there is a blank, a comma, a parenthesis or nothing.
  cases vendor <;> rcases shape with ⟨_ | _⟩ | ⟨_ | _⟩ | _ | _ | _ <;> cases framed <;>
    simp [Vendor.profile, Frame.Separate, LiteralStyle.Detached, LiteralStyle.continues,
      LiteralStyle.beforeCode]

/-- A word is written as a literal by putting it between quotes, whatever the vendor. -/
theorem quote_word (style : LiteralStyle) {value : String}
    (letters : value.toList.all Char.isAlphanum = true) :
    style.quote value = "'" ++ value ++ "'" := by
  have same : value.toList.flatMap style.encodeChar = value.toList := by
    generalize value.toList = chars at letters
    induction chars with
    | nil => rfl
    | cons c chars ih =>
      simp only [List.all_cons, Bool.and_eq_true] at letters
      -- A letter or digit is no quote, no backslash and no line break.
      have itself : style.encodeChar c = [c] := by
        have other : c ≠ '\'' ∧ c ≠ '\\' ∧ c ≠ '\r' ∧ c ≠ '\n' := by
          refine ⟨?_, ?_, ?_, ?_⟩ <;> (rintro rfl; simp at letters)
        simp [LiteralStyle.encodeChar, other]
      rw [List.flatMap_cons, itself, ih letters.2]
      rfl
  simp only [LiteralStyle.quote, LiteralStyle.encode, same]
  apply String.toList_injective
  simp

section

attribute [local simp] CatalogQuery.sql? CatalogQuery.shape CatalogQuery.arguments Vendor.frame?
  Frame.fill Frame.spell Frame.assign Profile.quoteText

/-- The statement of a vendor is its frame with the arguments filled in. -/
theorem sql?_eq_fill (vendor : Vendor) (settings : Settings) (query : CatalogQuery)
    (quoted : vendor = .sqlServer → ∀ sequence, query ≠ .nextValue sequence) :
    query.sql? (vendor.profile settings) =
      (vendor.frame? query.shape).map fun frame =>
        frame.fill (vendor.profile settings).literals
          (query.arguments vendor (vendor.profile settings)) := by
  -- Statement and frame are both spelled out once it is known whether there is a schema.
  cases query with
  | procedures schema =>
    cases present : nonEmpty schema <;> cases vendor <;>
      simp [Profile.proceduresQuery?, Profile.schemaCondition, present, quote_word,
        ← String.append_assoc]
  | indexColumns schema table =>
    cases present : nonEmpty schema <;> cases vendor <;>
      simp [Profile.indexColumnsQuery?, Profile.schemaCondition, indexColumnAlias, present,
        ← String.append_assoc]
  | sequenceExists sequence =>
    cases vendor <;> simp [Profile.sequenceExistsQuery?, Vendor.capabilities]
  | currentValue sequence =>
    cases vendor <;> simp [Profile.currentValueQuery?, Vendor.capabilities, String.append_assoc]
  | nextValue sequence =>
    cases vendor with
    | sqlServer => exact absurd rfl (quoted rfl sequence)
    | _ => simp [Profile.nextValueQuery?, Vendor.capabilities, String.append_assoc]

theorem holes_eq_length {vendor : Vendor} {query : CatalogQuery} {frame : Frame}
    (profile : Profile) (framed : vendor.frame? query.shape = some frame) :
    frame.holes = (query.arguments vendor profile).length := by
  cases query with
  | procedures schema =>
    cases present : nonEmpty schema <;> cases vendor <;> simp [present] at framed <;>
      subst framed <;> simp [Frame.holes, present]
  | indexColumns schema table =>
    cases present : nonEmpty schema <;> cases vendor <;> simp [present] at framed <;>
      subst framed <;> simp [Frame.holes, present]
  | sequenceExists sequence | currentValue sequence | nextValue sequence =>
    cases vendor <;> cases framed <;> simp [Frame.holes]

end

/-- Read by the vendor's rules for string literals, a catalog query of a built-in profile has the
tokens of a frame that depends on nothing but the vendor, the kind of query and the presence of a
schema, with one literal for each argument in the open places. -/
theorem tokens_catalogQuery (vendor : Vendor) (attributes : Attributes) (query : CatalogQuery)
    (quoted : vendor = .sqlServer → ∀ sequence, query ≠ .nextValue sequence) :
    let profile := (vendor.configure attributes).result
    (query.sql? profile).map profile.literals.tokens =
        (vendor.frame? query.shape).map (fun frame =>
          frame.tokens profile.literals (query.arguments vendor profile)) ∧
      ∀ frame ∈ vendor.frame? query.shape,
        frame.holes = (query.arguments vendor profile).length := by
  intro profile
  refine ⟨?_, fun frame framed => holes_eq_length profile framed⟩
  have stated := sql?_eq_fill vendor (.ofAttributes attributes) query quoted
  change query.sql? profile = _ at stated
  rw [stated, Option.map_map]
  cases framed : vendor.frame? query.shape with
  | none => rfl
  | some frame =>
    -- The queries are frames, so it is enough to read what fills a frame.
    have same := Frame.tokens_fill (literals_readable vendor _) (frame_quiet framed)
      (frame_separate (.ofAttributes attributes) framed) (holes_eq_length profile framed)
    exact congrArg some same

/-- A name that tries to leave its literal and to comment out the rest stays one literal. -/
theorem tokens_nextValue_hostile :
    let profile := (Vendor.postgreSql.configure .empty).result
    let query := CatalogQuery.nextValue "s'); --\r\n"
    (Vendor.postgreSql = .sqlServer → ∀ sequence, query ≠ .nextValue sequence) ∧
      (query.sql? profile).map profile.literals.tokens =
        some [.word "SELECT", .word "nextval", .symbol '(', .literal "s'); --\r\n",
          .symbol ')'] := by
  intro profile query
  have quoted : Vendor.postgreSql = .sqlServer → ∀ sequence, query ≠ .nextValue sequence := by
    intro same
    cases same
  refine ⟨quoted, ?_⟩
  have read := (tokens_catalogQuery .postgreSql .empty query quoted).1
  have opening : profile.literals.tokens "SELECT nextval(" =
      [.word "SELECT", .word "nextval", .symbol '('] := by decide +kernel
  have closing : profile.literals.tokens ")" = [.symbol ')'] := by decide +kernel
  refine read.trans ?_
  simp only [query, CatalogQuery.shape, Vendor.frame?, Option.map_some, Frame.tokens,
    Frame.assign, CatalogQuery.arguments, List.flatMap_cons, List.flatMap_nil, List.append_nil]
  change some (profile.literals.tokens "SELECT nextval(" ++
    (Token.literal "s'); --\r\n" :: profile.literals.tokens ")")) = _
  rw [opening, closing]
  rfl

end VendorSql
