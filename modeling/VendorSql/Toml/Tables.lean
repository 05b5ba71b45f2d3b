import VendorSql.Datum

/-!
# The tables of a TOML document

A document fills in one tree of tables. A table comes to be by a header, by the header of a table
inside it, or by a key with dots, and how it came to be decides what may be added later: a header
opens a table once, a key with dots extends only tables that keys with dots have made, and a value
that has been written is closed.
-/
namespace VendorSql.Toml

/-- How a table came to be. -/
inductive Origin where
  | header
  /-- By the header of a table inside it. -/
  | implied
  /-- By a key with dots. -/
  | dotted
  deriving Repr, DecidableEq

/-- A part of a document that is being read. -/
inductive Node where
  | value (datum : Datum)
  | table (origin : Origin) (entries : List (String × Node))
  /-- A list of tables, of which the last one is open. -/
  | series (tables : List (List (String × Node)))

/-- The entries of a table in the order in which they were written. -/
abbrev Entries := List (String × Node)

/-- The entries with another node under a key that is there. -/
def replaceEntry (key : String) (node : Node) (entries : Entries) : Entries :=
  entries.map fun entry => if entry.1 = key then (key, node) else entry

/-- Goes from a table along the keys of a path and changes the table at its end. Tables on the way
that are not there are made. -/
def changeAt (byDots : Bool) (change : Origin → Entries → Option Entries) :
    List String → Origin → Entries → Option Entries
  | [], origin, entries => change origin entries
  | key :: path, _, entries =>
    match entries.lookup key with
    | none => do
      let origin := if byDots then Origin.dotted else .implied
      let inner ← changeAt byDots change path origin []
      some (entries ++ [(key, .table origin inner)])
    | some (.value _) => none
    -- A path through a list goes on in its last table.
    | some (.series tables) => do
      let last ← changeAt byDots change path .header (← tables.getLast?)
      some (replaceEntry key (.series (tables.dropLast ++ [last])) entries)
    | some (.table origin inner) =>
      -- What a header has opened is closed for keys with dots.
      if byDots ∧ origin = .header then none
      else do
        let inner ← changeAt byDots change path origin inner
        some (replaceEntry key (.table origin inner) entries)

def addValue (path : List String) (key : String) (datum : Datum) (entries : Entries) :
    Option Entries :=
  changeAt true
    (fun origin entries =>
      -- Keys with dots end in a table that such keys have made, keys without in the one that is
      -- open.
      if origin = .dotted ↔ path = [] then none
      else if (entries.lookup key).isSome then none
      else some (entries ++ [(key, .value datum)]))
    path .header entries

def openTable (key : String) (entries : Entries) : Option Entries :=
  match entries.lookup key with
  | none => some (entries ++ [(key, .table .header [])])
  | some (.table .implied inner) => some (replaceEntry key (.table .header inner) entries)
  | _ => none

/-- Adds a table to the list of tables of a header. -/
def openSeries (key : String) (entries : Entries) : Option Entries :=
  match entries.lookup key with
  | none => some (entries ++ [(key, .series [[]])])
  | some (.series tables) => some (replaceEntry key (.series (tables ++ [[]])) entries)
  | _ => none

inductive Statement where
  | value (path : List String) (key : String) (datum : Datum)
  | table (path : List String) (key : String)
  | series (path : List String) (key : String)

/-- A document as far as it has been read, and the path of the open table. -/
structure Document where
  root : Entries := []
  current : List String := []

namespace Document

/-- The document after one more statement. -/
def add (document : Document) : Statement → Option Document
  | .value path key datum => do
    let root ← changeAt false (fun _ entries => addValue path key datum entries)
      document.current .header document.root
    some { document with root }
  | .table path key => do
    let root ← changeAt false (fun _ entries => openTable key entries) path .header document.root
    some { root, current := path ++ [key] }
  | .series path key => do
    let root ← changeAt false (fun _ entries => openSeries key entries) path .header document.root
    some { root, current := path ++ [key] }

end Document

mutual

def Node.toDatum : Node → Datum
  | .value datum => datum
  | .table _ entries => .table (entriesToData entries)
  | .series tables => .list (seriesToData tables)

def entriesToData : List (String × Node) → List (String × Datum)
  | [] => []
  | (key, node) :: rest => (key, node.toDatum) :: entriesToData rest

def seriesToData : List (List (String × Node)) → List Datum
  | [] => []
  | entries :: rest => .table (entriesToData entries) :: seriesToData rest

end

/-- The data of the document that the statements make up. -/
def Document.ofStatements? (statements : List Statement) : Option Datum := do
  let document ← statements.foldlM Document.add {}
  some (.table (entriesToData document.root))

/-- The data of a table that is written in one line, from its keys and values. -/
def inlineTable? (entries : List (List String × String × Datum)) : Option Datum := do
  let root ← entries.foldlM (fun root (path, key, datum) => addValue path key datum root) []
  some (.table (entriesToData root))

end VendorSql.Toml
