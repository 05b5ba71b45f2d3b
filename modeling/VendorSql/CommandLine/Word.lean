import VendorSql.CommandLine.Setting
import VendorSql.Text.Parts

/-!
# Words of a command line

The arguments are read one after another as words: settings with and without a value, the verb, and
the operands. The first operand is the verb, and from there on its settings are understood too. A
value stands in the same argument as its setting or is the next one, which must not look like a
setting then. After two dashes by themselves everything is an operand.
-/
namespace VendorSql.CommandLine

/-- A part of the command line with a meaning of its own. -/
inductive Word where
  | flag (setting : Setting)
  | value (setting : Setting) (text : String)
  | verb (verb : Verb)
  | operand (text : String)
  deriving Repr, DecidableEq

/-- What an argument is by its looks. -/
inductive Shape where
  /-- Two dashes by themselves. -/
  | separator
  /-- A name after two dashes, and what stands after the first `=`. -/
  | long (name : String) (value : Option String)
  /-- Letters after one dash. -/
  | letters (letters : List Char)
  | plain
  deriving Repr, DecidableEq

/-- A dash by itself is a plain argument. -/
def shape (argument : String) : Shape :=
  match argument.toList with
  | ['-', '-'] => .separator
  | '-' :: '-' :: rest =>
    match Text.splitFirst? '=' rest with
    | some (name, value) => .long (String.ofList name) (some (String.ofList value))
    | none => .long (String.ofList rest) none
  | '-' :: c :: rest => .letters (c :: rest)
  | _ => .plain

/-- The words of an argument with settings, and the setting whose value is the next argument. -/
abbrev Settled := List Word × Option Setting

/-- The setting of that name with what was given as its value. -/
def long? (allowed : List Setting) (name : String) (value : Option String) : Option Settled := do
  let setting ← allowed.find? (·.name == name)
  match setting.takesValue, value with
  | true, some text => some ([.value setting text], none)
  | true, none => some ([], some setting)
  | false, none => some ([.flag setting], none)
  | false, some _ => none

/-- The settings of the letters. One that takes a value takes what is left of the letters, with or
without a `=` before it. -/
def letters? (allowed : List Setting) : List Char → Option Settled
  | [] => some ([], none)
  | c :: rest => do
    let setting ← allowed.find? (·.letter? == some c)
    if setting.takesValue then
      match rest with
      | [] => some ([], some setting)
      | '=' :: text => some ([.value setting (String.ofList text)], none)
      | text => some ([.value setting (String.ofList text)], none)
    else
      let (words, pending) ← letters? allowed rest
      some (.flag setting :: words, pending)

/-- The words of the arguments that follow `verb`; `pending` waits for its value. -/
def wordsFrom? (verb : Option Verb) (pending : Option Setting) :
    List String → Option (List Word)
  | [] => if pending.isNone then some [] else none
  | argument :: rest =>
    match pending, shape argument with
    | some setting, .plain => do
      some (.value setting argument :: (← wordsFrom? verb none rest))
    -- What looks like a setting is no value.
    | some _, _ => none
    | none, .separator => some (rest.map .operand)
    | none, .long name value => do
      let (words, pending) ← long? (Setting.allowed verb) name value
      some (words ++ (← wordsFrom? verb pending rest))
    | none, .letters letters => do
      let (words, pending) ← letters? (Setting.allowed verb) letters
      some (words ++ (← wordsFrom? verb pending rest))
    | none, .plain =>
      -- The first operand is the verb.
      if verb.isSome then do some (.operand argument :: (← wordsFrom? verb none rest))
      else do
        let verb ← Verb.ofName? argument
        some (.verb verb :: (← wordsFrom? (some verb) none rest))

def words? (arguments : List String) : Option (List Word) :=
  wordsFrom? none none arguments

/-- The words before the verb, the verb, and the words after it. -/
def splitAtVerb? : List Word → Option (List Word × Verb × List Word)
  | [] => none
  | .verb verb :: rest => some ([], verb, rest)
  | word :: rest => (splitAtVerb? rest).map fun (before, found) => (word :: before, found)

/-! ### Looking words up -/

def values (words : List Word) (setting : Setting) : List String :=
  words.filterMap fun
    | .value other text => if other = setting then some text else none
    | _ => none

def operands (words : List Word) : List String :=
  words.filterMap fun
    | .operand text => some text
    | _ => none

/-- The value of a setting that may be given once. -/
def value? (words : List Word) (setting : Setting) : Option (Option String) :=
  match values words setting with
  | [] => some none
  | [text] => some (some text)
  | _ => none

/-- Whether a setting without value that may be given once is given. -/
def flag? (words : List Word) (setting : Setting) : Option Bool :=
  match words.count (.flag setting) with
  | 0 => some false
  | 1 => some true
  | _ => none

end VendorSql.CommandLine
