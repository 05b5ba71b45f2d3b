import VendorSql.Proofs.CatalogLiterals
import VendorSql.Proofs.QualifiedNames

/-!
# The table whose indexes are listed

PostgreSQL and MySQL are asked for the indexes of a table by two literals, one for the table and one
for its schema, and the literals have the names as they are given. Everywhere else the profile
writes these names as identifiers, in the forced case and without the quotes that are there already.
So the query is about the table of the other statements only if forcing the case changes nothing and
neither name stands between quotes.
-/
namespace VendorSql

/-- The values of the literals among tokens, in order. -/
def literalValues (tokens : List Token) : List String :=
  tokens.filterMap fun token =>
    match token with
    | .literal value => some value
    | _ => none

theorem literalValues_append (first second : List Token) :
    literalValues (first ++ second) = literalValues first ++ literalValues second :=
  List.filterMap_append

/-- No literal is read where there are no quotes. -/
theorem literalValues_of_quiet (style : LiteralStyle) {text : List Char} (quiet : '\'' ∉ text)
    (letters : List Char) : literalValues (style.lexFrom 0 (.outside letters) text) = [] := by
  have wordless (letters : List Char) : literalValues (endWord letters) = [] := by
    unfold endWord
    split <;> rfl
  -- Without a quote the reader is never inside a literal, only between words or in one.
  induction text generalizing letters with
  | nil => exact wordless letters
  | cons c text ih =>
    simp only [List.mem_cons, not_or] at quiet
    have other : ¬c = '\'' := fun same => quiet.1 same.symm
    have rest (letters : List Char) := ih quiet.2 letters
    simp only [LiteralStyle.lexFrom, if_neg other]
    split
    · exact rest _
    · split
      · rw [literalValues_append, wordless, rest]
        rfl
      · have symbol : literalValues (.symbol c :: style.lexFrom 0 (.outside []) text) = [] :=
          rest []
        rw [literalValues_append, wordless, symbol]
        rfl

namespace Frame

/-- The literals of a statement are those in the places of its frame. -/
theorem literalValues_tokens {style : LiteralStyle} {frame : Frame} {arguments : List String}
    (quiet : '\'' ∉ frame.opening.toList)
    (still : ∀ part ∈ assign frame.slots arguments, '\'' ∉ part.2.toList) :
    literalValues (frame.tokens style arguments) =
      (assign frame.slots arguments).map Prod.fst := by
  have opening : literalValues (style.tokens frame.opening) = [] :=
    literalValues_of_quiet style quiet []
  rw [Frame.tokens, literalValues_append, opening, List.nil_append]
  -- The induction is on the literals and the texts behind them, however they came about.
  generalize assign frame.slots arguments = parts at still ⊢
  induction parts with
  | nil => rfl
  | cons part parts ih =>
    obtain ⟨first, others⟩ := List.forall_mem_cons.mp still
    have behind : literalValues (.literal part.1 :: style.tokens part.2) = [part.1] :=
      congrArg (part.1 :: ·) (literalValues_of_quiet style first [])
    rw [List.flatMap_cons, literalValues_append, ih others, behind]
    rfl

end Frame

/-- Asked for a table in a schema, both vendors get the names in this order, as they are given. -/
theorem literalValues_indexColumns {vendor : Vendor}
    (asked : vendor = .postgreSql ∨ vendor = .mySql) (settings : Settings) {schema : String}
    (present : schema ≠ "") (table : String) :
    ∃ query, (vendor.profile settings).indexColumnsQuery? (some schema) table = some query ∧
      literalValues ((vendor.profile settings).literals.tokens query) = [table, schema] := by
  have given : nonEmpty (some schema) = some schema := by simp [nonEmpty, present]
  let query := CatalogQuery.indexColumns (some schema) table
  -- Both vendors ask with two open places, the table first.
  obtain ⟨frame, between, framed, slots⟩ : ∃ frame between,
      vendor.frame? query.shape = some frame ∧ frame.slots = [(none, between), (none, "")] := by
    simp only [query, CatalogQuery.shape, given, Option.isSome_some]
    rcases asked with rfl | rfl
    · exact ⟨_, _, rfl, rfl⟩
    · exact ⟨_, _, rfl, rfl⟩
  have arguments : query.arguments vendor (vendor.profile settings) = [table, schema] := by
    rcases asked with rfl | rfl <;> simp [query, CatalogQuery.arguments, given]
  have stated := sql?_eq_fill vendor settings query (fun _ _ => CatalogQuery.noConfusion)
  rw [framed, Option.map_some, arguments] at stated
  refine ⟨_, stated, ?_⟩
  have quiet := frame_quiet framed
  have separate := frame_separate settings framed
  have holes : frame.holes = [table, schema].length := by simp [Frame.holes, slots]
  have filled : Frame.assign frame.slots [table, schema] = [(table, between), (schema, "")] := by
    simp [slots, Frame.assign]
  rw [Frame.tokens_fill (literals_readable vendor settings) quiet separate holes,
    Frame.literalValues_tokens quiet, filled]
  · rfl
  · rw [slots] at separate
    simp only [filled, List.forall_mem_cons]
    exact ⟨separate.1, by simp⟩

namespace Profile

/-- The name that an identifier stands for; none if the text is no identifier or more than one. -/
def denoted? (profile : Profile) (identifier : String) : Option String :=
  match profile.readName? identifier.toList with
  | some (name, []) => some (String.ofList name)
  | _ => none

variable {profile : Profile} {opening quote : Char}

theorem denoted?_quoteName_of_bare (quotes : profile.QuotesWith opening quote) {name : String}
    (bare : profile.quotes.encloses name = false) :
    profile.denoted? (profile.quoteName name) = some (profile.options.foldCase name) := by
  have read := readIdentifier_quoteName quotes bare (IdentifierQuotes.apart_nil opening quote)
  rw [List.append_nil] at read
  simp only [denoted?, readName?_eq quotes, read, String.ofList_toList]

/-- What a name between quotes stands for is without the quotes, so it is shorter. -/
theorem denoted?_ne_of_encloses (quotes : profile.QuotesWith opening quote)
    (unplain : continuesIdentifier opening = false) {name : String}
    (enclosed : profile.quotes.encloses name = true) :
    profile.denoted? (profile.quoteName name) ≠ some name := by
  rw [quoteName_of_encloses enclosed]
  intro itself
  have read : profile.readName? (name.toList ++ []) = some (name.toList, []) := by
    unfold denoted? at itself
    split at itself
    next inner found =>
      rw [List.append_nil, found, ← Option.some_inj.mp itself, String.toList_ofList]
    next => cases itself
  rw [readName?_eq quotes, IdentifierQuotes.readIdentifier_append_iff unplain
    (IdentifierQuotes.apart_nil opening quote)] at read
  rcases read with ⟨-, word⟩ | quoted
  -- A name between quotes begins with a character that is in no word.
  · obtain ⟨body, -, rfl⟩ := (profile.quotes.encloses_iff name).mp enclosed
    simp [quotes.opens, unplain] at word
  · have longer := IdentifierQuotes.length_le_double quote name.toList
    have lengths := congrArg List.length quoted
    simp only [List.length_append, List.length_cons] at lengths
    omega

/-- An identifier stands for the name it was made of exactly if that name did not stand between
quotes already and has the forced case. -/
theorem denoted?_quoteName_iff (quotes : profile.QuotesWith opening quote)
    (unplain : continuesIdentifier opening = false) (name : String) :
    profile.denoted? (profile.quoteName name) = some name ↔
      profile.quotes.encloses name = false ∧ profile.options.foldCase name = name := by
  cases enclosed : profile.quotes.encloses name with
  | true => simp [denoted?_ne_of_encloses quotes unplain enclosed]
  | false => simp [denoted?_quoteName_of_bare quotes enclosed]

end Profile

/-- The two literals of the query hold the names that the identifiers of the profile stand for
exactly if neither name stands between quotes and both have the forced case. -/
theorem literalValues_indexColumns_iff (vendor : Vendor)
    (asked : vendor = .postgreSql ∨ vendor = .mySql) (attributes : Attributes)
    (schema table : String) (present : schema ≠ "") :
    let profile := (vendor.configure attributes).result
    ∃ query, profile.indexColumnsQuery? (some schema) table = some query ∧
      literalValues (profile.literals.tokens query) = [table, schema] ∧
      ((literalValues (profile.literals.tokens query)).map some =
          [profile.denoted? (profile.quoteName table),
            profile.denoted? (profile.quoteName schema)] ↔
        profile.Bare (some schema) table ∧ profile.options.foldCase table = table ∧
          profile.options.foldCase schema = schema) := by
  intro profile
  obtain ⟨query, stated, values⟩ :=
    literalValues_indexColumns asked (.ofAttributes attributes) present table
  change literalValues (profile.literals.tokens query) = [table, schema] at values
  obtain ⟨opening, quote, quotes, unplain, -, -⟩ := vendor.quotesWith (.ofAttributes attributes)
  -- A literal is the name that is denoted exactly if nothing has been done to it.
  have itself (name : String) : some name = profile.denoted? (profile.quoteName name) ↔
      profile.quotes.encloses name = false ∧ profile.options.foldCase name = name :=
    eq_comm.trans (Profile.denoted?_quoteName_iff quotes unplain name)
  refine ⟨query, stated, values, ?_⟩
  calc (literalValues (profile.literals.tokens query)).map some =
        [profile.denoted? (profile.quoteName table), profile.denoted? (profile.quoteName schema)]
      ↔ some table = profile.denoted? (profile.quoteName table) ∧
          some schema = profile.denoted? (profile.quoteName schema) := by rw [values]; simp
    _ ↔ (profile.quotes.encloses table = false ∧ profile.options.foldCase table = table) ∧
          (profile.quotes.encloses schema = false ∧ profile.options.foldCase schema = schema) :=
        and_congr (itself table) (itself schema)
    _ ↔ _ := by
        simp only [Profile.Bare, Option.mem_some_iff, forall_eq']
        tauto

/-- Names that have to be quoted, and are, are looked up as they are. -/
theorem literalValues_indexColumns_spaced :
    let profile := (Vendor.mySql.configure .empty).result
    (Vendor.mySql = .postgreSql ∨ Vendor.mySql = .mySql) ∧ "year`s" ≠ "" ∧
      ∃ query, profile.indexColumnsQuery? (some "year`s") "2024 Orders" = some query ∧
        (literalValues (profile.literals.tokens query)).map some =
          [profile.denoted? (profile.quoteName "2024 Orders"),
            profile.denoted? (profile.quoteName "year`s")] := by
  intro profile
  obtain ⟨query, stated, -, same⟩ := literalValues_indexColumns_iff .mySql (.inr rfl) .empty
    "year`s" "2024 Orders" (by decide)
  refine ⟨.inr rfl, by decide, query, stated, same.mpr ⟨⟨?_, ?_⟩, ?_, ?_⟩⟩
  all_goals decide +kernel

/-- With names forced to lowercase, the indexes are looked for on a table nothing else is about. -/
theorem literalValues_indexColumns_lowercase :
    let profile := (Vendor.postgreSql.configure
      (.ofList [(CommonOptions.forceLowerKey, "Y")])).result
    profile.qualifiedName (some "Sales") "Orders" = "sales.orders" ∧
      ∃ query, profile.indexColumnsQuery? (some "Sales") "Orders" = some query ∧
        literalValues (profile.literals.tokens query) = ["Orders", "Sales"] ∧
        (literalValues (profile.literals.tokens query)).map some ≠
          [profile.denoted? (profile.quoteName "Orders"),
            profile.denoted? (profile.quoteName "Sales")] := by
  intro profile
  obtain ⟨query, stated, values⟩ := literalValues_indexColumns (.inl rfl)
    (.ofAttributes (.ofList [(CommonOptions.forceLowerKey, "Y")])) (by decide : "Sales" ≠ "")
    "Orders"
  change literalValues (profile.literals.tokens query) = ["Orders", "Sales"] at values
  refine ⟨by decide +kernel, query, stated, values, ?_⟩
  have folded : profile.denoted? (profile.quoteName "Orders") = some "orders" := by
    decide +kernel
  rw [values, folded]
  simp

end VendorSql
