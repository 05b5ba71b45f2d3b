import VendorSql.Text.Parts

/-!
# Path patterns

A pattern is a path in which `?` stands for any character, `*` for any run of them, `[…]` for one of
a class and `[!…]` for one outside it. `**` stands for any directories and has to be a whole part
of the path. The pattern is checked as a whole and then taken apart at the slashes, and each part
is checked once more, because a class may not reach over a slash.
-/
namespace VendorSql.Glob

inductive PatternFault where
  | tooManyStars
  | starsInsidePart
  | openClass
  deriving Repr, DecidableEq

/-- A fault and the character at which it is noticed. -/
structure PatternError where
  fault : PatternFault
  position : Nat
  deriving Repr, DecidableEq

def PatternFault.text : PatternFault → String
  | tooManyStars => "wildcards are either regular `*` or recursive `**`"
  | starsInsidePart => "recursive wildcards must form a single path component"
  | openClass => "invalid range pattern"

def PatternError.message (error : PatternError) : String :=
  "Pattern syntax error near position " ++ toString error.position ++ ": " ++ error.fault.text

/-- What a pattern is made of. -/
inductive Token where
  | char (c : Char)
  | anyChar
  | anyChars
  | anyDirectories
  /-- A character within one of the ranges. -/
  | within (ranges : List (Char × Char))
  /-- A character within none of the ranges. -/
  | without (ranges : List (Char × Char))
  deriving Repr, DecidableEq

/-- The ranges of a class: `a-z` is one, and any other character is a range by itself. -/
def ranges : List Char → List (Char × Char)
  | low :: '-' :: high :: rest => (low, high) :: ranges rest
  | c :: rest => (c, c) :: ranges rest
  | [] => []

mutual

/-- The tokens of a pattern from `position` on; `previous` is the character before. -/
def tokensFrom (position : Nat) (previous : Option Char) :
    List Char → Except PatternError (List Token)
  | [] => .ok []
  | '?' :: rest => return .anyChar :: (← tokensFrom (position + 1) (some '?') rest)
  | '*' :: '*' :: '*' :: _ => .error ⟨.tooManyStars, position + 2⟩
  | '*' :: '*' :: rest =>
    if previous.any (· ≠ '/') then .error ⟨.starsInsidePart, position - 1⟩
    else match rest with
      | [] => .ok [.anyDirectories]
      | '/' :: rest => return .anyDirectories :: (← tokensFrom (position + 3) (some '/') rest)
      | _ => .error ⟨.starsInsidePart, position + 2⟩
  | '*' :: rest => return .anyChars :: (← tokensFrom (position + 1) (some '*') rest)
  | '[' :: '!' :: first :: rest => classFrom position .without [first] (position + 3) rest
  | '[' :: '!' :: [] => .error ⟨.openClass, position⟩
  | '[' :: first :: rest => classFrom position .within [first] (position + 2) rest
  | '[' :: [] => .error ⟨.openClass, position⟩
  | c :: rest => return .char c :: (← tokensFrom (position + 1) (some c) rest)

/-- The rest of a class that was opened at `start`, and the tokens after it. Its first character is
a member whatever it is; `members` are those seen so far, the last one first. -/
def classFrom (start : Nat) (token : List (Char × Char) → Token) (members : List Char)
    (position : Nat) : List Char → Except PatternError (List Token)
  | [] => .error ⟨.openClass, start⟩
  | ']' :: rest =>
    return token (ranges members.reverse) :: (← tokensFrom (position + 1) (some ']') rest)
  | c :: rest => classFrom start token (c :: members) (position + 1) rest

end

def tokens (chars : List Char) : Except PatternError (List Token) :=
  tokensFrom 0 none chars

/-- A text and what is left of it after each of its characters. -/
def suffixes : List Char → List (List Char)
  | [] => [[]]
  | c :: rest => (c :: rest) :: suffixes rest

def inRanges (ranges : List (Char × Char)) (c : Char) : Bool :=
  ranges.any fun (low, high) => low ≤ c && c ≤ high

/-- Whether a name is of the form the tokens describe. -/
def fits : List Token → List Char → Bool
  | [], name => name.isEmpty
  | .anyChars :: rest, name | .anyDirectories :: rest, name => (suffixes name).any (fits rest)
  | _ :: _, [] => false
  | .char c :: rest, d :: name => c == d && fits rest name
  | .anyChar :: rest, _ :: name => fits rest name
  | .within ranges :: rest, d :: name => inRanges ranges d && fits rest name
  | .without ranges :: rest, d :: name => !inRanges ranges d && fits rest name

/-- One part of a pattern. -/
inductive Part where
  /-- Any number of directories. -/
  | directories
  /-- Just that name. -/
  | name (name : String)
  /-- Any name of that form. -/
  | form (tokens : List Token)
  deriving Repr, DecidableEq

namespace Part

/-- The character a token stands for, if there is only one. -/
def char? : Token → Option Char
  | .char c => some c
  | _ => none

def ofTokens (tokens : List Token) : Part :=
  if tokens = [.anyDirectories] then .directories
  else match tokens.mapM char? with
    | some chars => .name (String.ofList chars)
    | none => .form tokens

def holds : Part → String → Bool
  | directories, _ => true
  | name expected, actual => actual == expected
  | form tokens, actual => fits tokens actual.toList

/-- The entries every directory has that belong to the part. They count only for a part that starts
with a point itself. -/
def pointNames (part : Part) : List String :=
  match part with
  | form (.char '.' :: _) => ["..", "."].filter part.holds
  | _ => []

end Part

structure Pattern where
  /-- Whether paths are looked for from the root on. -/
  rooted : Bool
  parts : List Part
  /-- Whether only directories are looked for. -/
  directoriesOnly : Bool
  deriving Repr, DecidableEq

/-- The pattern a text describes. A slash at the end adds no part; it asks for directories. -/
def Pattern.ofText (text : String) : Except PatternError Pattern := do
  let chars := text.toList
  let _ ← tokens chars
  let rooted := chars.head? == some '/'
  let texts := Text.parts '/' (if rooted then chars.drop 1 else chars)
  let texts := if texts.getLast? == some [] then texts.dropLast else texts
  let parts ← texts.mapM fun text => return Part.ofTokens (← tokens text)
  return { rooted, parts, directoriesOnly := chars.getLast? == some '/' }

end VendorSql.Glob
