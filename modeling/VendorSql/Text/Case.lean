import VendorSql.Text.CaseTable
import VendorSql.Text.Cased

/-!
# Lowercase and uppercase

Case is changed letter by letter, with one exception that looks at the surroundings: the capital
sigma becomes `ς` at the end of a word and `σ` elsewhere. A sigma ends a word when the nearest
character before it that is not looked through has case and the nearest one after it has none.

Keywords, attribute names and column names are compared without regard to the case of the letters
`A` to `Z` only. Letters beyond ASCII are compared exactly there, so that relation is decided
character by character and is an equivalence.
-/
namespace VendorSql.Text

/-- The code point a run table sends `code` to, itself when no run holds it. -/
def shifted (runs : List CaseRun) (code : Nat) : Nat :=
  match runs.find? (·.covers code) with
  | some run => (code + run.shift).toNat
  | none => code

/-- The lowercase form of a letter taken by itself. -/
def lowerChar (c : Char) : List Char :=
  if c = 'İ' then ['i', '\u0307'] else [Char.ofNat (shifted lowerRuns c.toNat)]

def upperChar (c : Char) : List Char :=
  match upperExpansions.lookup c.toNat with
  | some codes => codes.map Char.ofNat
  | none => [Char.ofNat (shifted upperRuns c.toNat)]

/-- Whether the first character that is not looked through has case. -/
def meetsCased (chars : List Char) : Bool :=
  match chars.dropWhile isCaseIgnorable with
  | [] => false
  | c :: _ => isCased c

/-- The form of a capital sigma between the characters before it, nearest first, and those after. -/
def lowerSigma (before after : List Char) : Char :=
  if meetsCased before && !meetsCased after then 'ς' else 'σ'

/-- The lowercase of `chars`, which follow `before`, nearest first. -/
def lowerAfter (before : List Char) : List Char → List Char
  | [] => []
  | c :: rest =>
    (if c = 'Σ' then [lowerSigma before rest] else lowerChar c) ++ lowerAfter (c :: before) rest

def lower (text : String) : String :=
  String.ofList (lowerAfter [] text.toList)

def upper (text : String) : String :=
  String.ofList (text.toList.flatMap upperChar)

/-! ### Equality that ignores ASCII case -/

/-- The text with the letters `A` to `Z` in lowercase and everything else unchanged. -/
def asciiLower (text : String) : List Char :=
  text.toList.map Char.toLower

/-- Whether two texts differ at most in the case of ASCII letters. -/
def equalIgnoringCase (left right : String) : Bool :=
  asciiLower left == asciiLower right

theorem equalIgnoringCase_iff (left right : String) :
    equalIgnoringCase left right = true ↔ asciiLower left = asciiLower right := by
  simp [equalIgnoringCase]

@[simp] theorem equalIgnoringCase_refl (text : String) : equalIgnoringCase text text = true := by
  simp [equalIgnoringCase]

theorem equalIgnoringCase_comm (left right : String) :
    equalIgnoringCase left right = equalIgnoringCase right left := by
  simp [equalIgnoringCase, Bool.beq_comm]

/-- Texts that are equal up to case are equal up to case to the same texts. -/
theorem equalIgnoringCase_congr {left right : String} (same : equalIgnoringCase left right = true)
    (text : String) : equalIgnoringCase text left = equalIgnoringCase text right := by
  rw [equalIgnoringCase_iff] at same
  simp only [equalIgnoringCase, same]

end VendorSql.Text
