import VendorSql.Toml.Scalar
import VendorSql.Toml.Tables

/-!
# Reading TOML

A document is a sequence of statements on lines of their own: a key and a value, the header of a
table, or the header of a table in a list. The statements are read one after another and then put
together. Values may be nested to a fixed depth.
-/
namespace VendorSql.Toml

/-- The text after a comment, at the line end. Nothing but visible characters may stand in it. -/
def skipComment? : List Char → Option (List Char)
  | [] => some []
  | c :: rest =>
    if c = '\n' ∨ c = '\r' then some (c :: rest)
    else if isVisible c then skipComment? rest
    else none

/-- The text after the spaces and a comment. -/
def skipToLineEnd? (chars : List Char) : Option (List Char) :=
  match skipSpaces chars with
  | '#' :: rest => skipComment? rest
  | rest => some rest

def nextLine? (chars : List Char) : Option (List Char) := do
  match ← skipToLineEnd? chars with
  | [] => some []
  | rest => lineEnd? rest

/-- The text after any spaces, comments and line ends. -/
def skipLines? : Nat → List Char → Option (List Char)
  | 0, _ => none
  | fuel + 1, chars => do
    let rest ← skipToLineEnd? chars
    match lineEnd? rest with
    | some rest => skipLines? fuel rest
    | none => some rest

mutual

/-- A value inside `depth` others, and the text after it. -/
def value? (fuel depth : Nat) (chars : List Char) : Option (Datum × List Char) :=
  match fuel with
  | 0 => none
  | fuel + 1 =>
    match chars with
    | '"' :: _ | '\'' :: _ => (string? chars).map fun (text, rest) => (.text text, rest)
    | '[' :: rest => do
      if maxDepth ≤ depth + 1 then none
      else
        let (items, rest) ← items? fuel (depth + 1) rest
        some (.list items, rest)
    | '{' :: rest => do
      if maxDepth ≤ depth + 1 then none
      else
        let (entries, rest) ← match skipSpaces rest with
          | '}' :: rest => some ([], rest)
          | rest => pairs? fuel (depth + 1) rest
        some (← inlineTable? entries, rest)
    | _ =>
      let (word, rest) := word chars
      (scalar? word).map (·, rest)

/-- The items of a list through the closing bracket. -/
def items? (fuel depth : Nat) (chars : List Char) : Option (List Datum × List Char) :=
  match fuel with
  | 0 => none
  | fuel + 1 => do
    match ← skipLines? (chars.length + 1) chars with
    | ']' :: rest => some ([], rest)
    | rest =>
      let (item, rest) ← value? fuel depth rest
      match ← skipLines? (rest.length + 1) rest with
      | ',' :: rest =>
        let (items, rest) ← items? fuel depth rest
        some (item :: items, rest)
      | ']' :: rest => some ([item], rest)
      | _ => none

/-- The keys and values of a table in one line that has at least one, through the closing brace. -/
def pairs? (fuel depth : Nat) (chars : List Char) :
    Option (List (List String × String × Datum) × List Char) :=
  match fuel with
  | 0 => none
  | fuel + 1 => do
    let (path, key, rest) ← key? chars
    let rest ← after? '=' rest
    let (datum, rest) ← value? fuel depth (skipSpaces rest)
    match skipSpaces rest with
    | ',' :: rest =>
      let (pairs, rest) ← pairs? fuel depth rest
      some ((path, key, datum) :: pairs, rest)
    | '}' :: rest => some ([(path, key, datum)], rest)
    | _ => none

end

def statement? (chars : List Char) : Option (Statement × List Char) := do
  match chars with
  | '[' :: '[' :: rest =>
    let (path, key, rest) ← key? rest
    some (.series path key, ← after? ']' (← after? ']' rest))
  | '[' :: rest =>
    let (path, key, rest) ← key? rest
    some (.table path key, ← after? ']' rest)
  | _ =>
    let (path, key, rest) ← key? chars
    let rest ← after? '=' rest
    let (datum, rest) ← value? (2 * rest.length + 2) 0 (skipSpaces rest)
    some (.value path key datum, rest)

def statements? : Nat → List Char → Option (List Statement)
  | 0, _ => none
  | fuel + 1, chars => do
    match ← skipLines? (chars.length + 1) chars with
    | [] => some []
    | rest =>
      let (statement, rest) ← statement? rest
      let rest ← nextLine? rest
      some (statement :: (← statements? fuel rest))

/-- The data of a document. Every statement takes a character at least. -/
def parse? (text : String) : Option Datum := do
  let chars := match text.toList with
    | '\ufeff' :: rest => rest
    | chars => chars
  Document.ofStatements? (← statements? (chars.length + 1) chars)

end VendorSql.Toml
