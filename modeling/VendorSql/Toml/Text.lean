import VendorSql.Json.Reader

/-!
# Texts and keys in TOML

The four kinds of strings and the keys. A basic string has escapes and a literal string has none;
each is closed on its line unless it is opened by three quotes. Line ends count as a single line
feed. Every function reads from the beginning of a text and returns what is left of it.
-/
namespace VendorSql.Toml

def isSpace (c : Char) : Bool := c == ' ' || c == '\t'

/-- The text from the next character on that is no space. -/
def skipSpaces (chars : List Char) : List Char := chars.dropWhile isSpace

/-- Whether a character may stand in a comment or, unless it is special there, in a string. -/
def isVisible (c : Char) : Bool := c == '\t' || (0x20 ≤ c.toNat && c.toNat ≠ 0x7f)

/-- The text after a line end. -/
def lineEnd? : List Char → Option (List Char)
  | '\n' :: rest => some rest
  | '\r' :: '\n' :: rest => some rest
  | _ => none

def skipLineEnd (chars : List Char) : List Char := (lineEnd? chars).getD chars

/-- The character of a code point written in hexadecimal. -/
def codePoint? (digits : List Char) : Option Char := do
  let code ← Json.hexNumber? digits
  if code.isValidChar then some (Char.ofNat code) else none

/-- The character that a letter after a backslash stands for. -/
def escapedChar? (letter : Char) : Option Char :=
  if letter = '/' then none else Json.escapedChar? letter

/-- A character in front of a string that is read further. -/
def prepend (c : Char) (read : Option (List Char × List Char)) : Option (List Char × List Char) :=
  read.map fun (chars, rest) => (c :: chars, rest)

/-- A basic string after its opening quote. -/
def basic? : List Char → Option (List Char × List Char)
  | [] => none
  | '"' :: rest => some ([], rest)
  | '\\' :: 'u' :: a :: b :: c :: d :: rest => do
    prepend (← codePoint? [a, b, c, d]) (basic? rest)
  | '\\' :: 'U' :: a :: b :: c :: d :: e :: f :: g :: h :: rest => do
    prepend (← codePoint? [a, b, c, d, e, f, g, h]) (basic? rest)
  | '\\' :: letter :: rest => do prepend (← escapedChar? letter) (basic? rest)
  | c :: rest => if isVisible c ∧ c ≠ '\\' then prepend c (basic? rest) else none

/-- The end of a string of several lines: up to two more quotes belong to the string. -/
def closeLines (quote : Char) : List Char → List Char × List Char
  | a :: b :: rest =>
    if a = quote then if b = quote then ([a, b], rest) else ([a], b :: rest)
    else ([], a :: b :: rest)
  | [a] => if a = quote then ([a], []) else ([], [a])
  | [] => ([], [])

/-- A basic string of several lines after its opening quotes. While `trimming`, blanks and line ends
are skipped, as they are after a backslash at the end of a line. -/
def basicLines? (trimming : Bool) : List Char → Option (List Char × List Char)
  | [] => none
  | '"' :: '"' :: '"' :: rest => some (closeLines '"' rest)
  | '\\' :: 'u' :: a :: b :: c :: d :: rest => do
    prepend (← codePoint? [a, b, c, d]) (basicLines? false rest)
  | '\\' :: 'U' :: a :: b :: c :: d :: e :: f :: g :: h :: rest => do
    prepend (← codePoint? [a, b, c, d, e, f, g, h]) (basicLines? false rest)
  | '\\' :: letter :: rest =>
    if (lineEnd? (skipSpaces (letter :: rest))).isSome then basicLines? true (letter :: rest)
    else do prepend (← escapedChar? letter) (basicLines? false rest)
  | '\r' :: '\n' :: rest =>
    if trimming then basicLines? true rest else prepend '\n' (basicLines? false rest)
  | c :: rest =>
    if trimming ∧ (isSpace c ∨ c = '\n') then basicLines? true rest
    else if (isVisible c ∧ c ≠ '\\') ∨ c = '\n' then prepend c (basicLines? false rest)
    else none

/-- A literal string after its opening quote. -/
def literal? : List Char → Option (List Char × List Char)
  | [] => none
  | c :: rest =>
    if c = '\'' then some ([], rest)
    else if isVisible c then prepend c (literal? rest)
    else none

/-- A literal string of several lines after its opening quotes. -/
def literalLines? : List Char → Option (List Char × List Char)
  | [] => none
  | '\'' :: '\'' :: '\'' :: rest => some (closeLines '\'' rest)
  | '\r' :: '\n' :: rest => prepend '\n' (literalLines? rest)
  | c :: rest => if isVisible c ∨ c = '\n' then prepend c (literalLines? rest) else none

def string? (chars : List Char) : Option (String × List Char) :=
  let read := match chars with
    | '"' :: '"' :: '"' :: rest => basicLines? false (skipLineEnd rest)
    | '"' :: rest => basic? rest
    | '\'' :: '\'' :: '\'' :: rest => literalLines? (skipLineEnd rest)
    | '\'' :: rest => literal? rest
    | _ => none
  read.map fun (chars, rest) => (String.ofList chars, rest)

/-- Whether a character may stand in a key without quotes. -/
def isBare (c : Char) : Bool := c.isAlphanum || c == '_' || c == '-'

def keyPart? (chars : List Char) : Option (String × List Char) :=
  match chars with
  | '"' :: rest => (basic? rest).map fun (key, rest) => (String.ofList key, rest)
  | '\'' :: rest => (literal? rest).map fun (key, rest) => (String.ofList key, rest)
  | _ =>
    let key := chars.takeWhile isBare
    if key = [] then none else some (String.ofList key, chars.dropWhile isBare)

/-- The parts of a key with dots between them, and the text after the spaces that follow. -/
def keyParts? : Nat → List Char → Option (List String × List Char)
  | 0, _ => none
  | fuel + 1, chars => do
    let (part, rest) ← keyPart? (skipSpaces chars)
    match skipSpaces rest with
    | '.' :: rest =>
      let (parts, rest) ← keyParts? fuel rest
      some (part :: parts, rest)
    | rest => some ([part], rest)

/-- How deep values may be nested, and how many parts a key may have, but for one. -/
def maxDepth : Nat := 80

/-- A key: the tables it goes through, the last part, and the text after it. -/
def key? (chars : List Char) : Option (List String × String × List Char) := do
  let (parts, rest) ← keyParts? (maxDepth - 1) chars
  some (parts.dropLast, ← parts.getLast?, rest)

end VendorSql.Toml
