import VendorSql.Proofs.AttributePrecedence
import VendorSql.Vendor.Builtin

/-!
# Who decides the separator

Two dots between a schema and a table can be asked for by a long key and by a short one, and the
long one counts where both are there. The command line takes the place of the file key by key,
without knowing that the two keys ask for the same. So it decides if it gives the long key, and also
if the file does not have the long key. If it gives the short key alone and the file has the long
one, the file decides.
-/
namespace VendorSql

open Text (equalIgnoringCase)

namespace Choice

def Gives (choice : Choice) (key : String) : Prop :=
  ∃ entry ∈ choice.attributes, equalIgnoringCase entry.1 key = true

instance (choice : Choice) (key : String) : Decidable (choice.Gives key) :=
  inferInstanceAs (Decidable (∃ entry ∈ choice.attributes, _))

/-- The value that is given last. -/
def value? (choice : Choice) (key : String) : Option String :=
  (choice.attributes.filter fun entry => equalIgnoringCase entry.1 key).getLast?.map Prod.snd

theorem isSome_value?_iff (choice : Choice) (key : String) :
    (choice.value? key).isSome = true ↔ choice.Gives key := by
  simp [value?, Gives]

theorem value?_of_not_gives {choice : Choice} {key : String} (absent : ¬ choice.Gives key) :
    choice.value? key = none := by
  rwa [← isSome_value?_iff, Option.not_isSome_iff_eq_none] at absent

end Choice

namespace Settings

/-- The first of the two keys that is there decides, and without either the answer is no. -/
theorem doubleSeparator_ofAttributes (attributes : Attributes) :
    (ofAttributes attributes).doubleSeparator =
      (((attributes.value? doubleSeparatorKey).or
        (attributes.value? shortDoubleSeparatorKey)).map Attributes.isYes).getD false := by
  simp only [ofAttributes, Attributes.flag?]
  cases attributes.value? doubleSeparatorKey <;> rfl

end Settings

namespace Config

open Settings (doubleSeparatorKey shortDoubleSeparatorKey)

/-- Whether two dots stand between a schema and a table of SQL Server. -/
def doubleSeparator (config : Config) : Bool :=
  (Settings.ofAttributes config.attributes).doubleSeparator

/-- In a file without two spellings of a key, each key is overridden by itself. -/
theorem value?_choose {config : Config} (unambiguous : config.attributes.Unambiguous)
    (choice : Choice) (key : String) :
    (config.choose choice).attributes.value? key =
      (choice.value? key).or (config.attributes.value? key) := by
  have single := unambiguous.length_spellings_le key
  simp only [choose, Choice.value?, Attributes.value?_eq_head?, spellings_foldl_override single]
  cases (choice.attributes.filter fun entry => equalIgnoringCase entry.1 key).getLast? <;> rfl

/-- The long key comes before the short one, and only within each of them the command line before
the file. -/
theorem doubleSeparator_choose {config : Config} (unambiguous : config.attributes.Unambiguous)
    (choice : Choice) :
    (config.choose choice).doubleSeparator =
      ((((choice.value? doubleSeparatorKey).or (config.attributes.value? doubleSeparatorKey)).or
        ((choice.value? shortDoubleSeparatorKey).or
          (config.attributes.value? shortDoubleSeparatorKey))).map
        Attributes.isYes).getD false := by
  rw [doubleSeparator, Settings.doubleSeparator_ofAttributes, value?_choose unambiguous,
    value?_choose unambiguous]

/-- Without a file the long key of the command line comes first. -/
theorem doubleSeparator_choose_alone (choice : Choice) :
    (({} : Config).choose choice).doubleSeparator =
      (((choice.value? doubleSeparatorKey).or
        (choice.value? shortDoubleSeparatorKey)).map Attributes.isYes).getD false := by
  have nothing (key : String) : (({} : Config).attributes).value? key = none := rfl
  have unambiguous : (({} : Config).attributes).Unambiguous := List.Pairwise.nil
  rw [doubleSeparator_choose unambiguous, nothing, nothing, Option.or_none, Option.or_none]

/-- A command line that gives one of the keys decides by itself, unless it gives only the short one
and the file says otherwise under the long one. -/
theorem doubleSeparator_choose_iff (config : Config) (choice : Choice)
    (unambiguous : config.attributes.Unambiguous)
    (given : choice.Gives doubleSeparatorKey ∨ choice.Gives shortDoubleSeparatorKey) :
    (config.choose choice).doubleSeparator = (({} : Config).choose choice).doubleSeparator ↔
      choice.Gives doubleSeparatorKey ∨
        ∀ kept, config.attributes.value? doubleSeparatorKey = some kept →
          Attributes.isYes kept = (({} : Config).choose choice).doubleSeparator := by
  have merged := doubleSeparator_choose unambiguous choice
  have alone := doubleSeparator_choose_alone choice
  by_cases long : choice.Gives doubleSeparatorKey
  · -- The long key comes first on both sides.
    obtain ⟨value, found⟩ := Option.isSome_iff_exists.mp ((choice.isSome_value?_iff _).mpr long)
    rw [found] at merged alone
    have same : (config.choose choice).doubleSeparator =
        (({} : Config).choose choice).doubleSeparator := merged.trans alone.symm
    exact iff_of_true same (Or.inl long)
  · have short : choice.Gives shortDoubleSeparatorKey := given.resolve_left long
    obtain ⟨value, found⟩ := Option.isSome_iff_exists.mp ((choice.isSome_value?_iff _).mpr short)
    rw [Choice.value?_of_not_gives long, found] at merged alone
    simp only [long, false_or]
    cases kept : config.attributes.value? doubleSeparatorKey with
    | none =>
      rw [kept] at merged
      have same : (config.choose choice).doubleSeparator =
          (({} : Config).choose choice).doubleSeparator := merged.trans alone.symm
      exact iff_of_true same nofun
    | some text =>
      -- The long key of the file stands in front of the short one that is given.
      rw [kept] at merged
      have file : (config.choose choice).doubleSeparator = Attributes.isYes text := by
        simpa only [Option.none_or, Option.some_or, Option.map_some, Option.getD_some] using merged
      rw [file]
      constructor
      · rintro same _ ⟨⟩
        exact same
      · intro agrees
        exact agrees text rfl

/-- A file and a command line with the short key, where the file has the long key too and does not
contradict. -/
theorem doubleSeparator_choose_iff_agreeing :
    let config : Config :=
      { attributes :=
          .ofList [("mssql_double_decimal_separator", " Yes "), ("DOUBLE_DECIMAL_SEPARATOR", "N")] }
    let choice : Choice :=
      { attributes := [("Double_Decimal_Separator", "N"), ("double_decimal_separator", "1")] }
    config.attributes.Unambiguous ∧
      (choice.Gives doubleSeparatorKey ∨ choice.Gives shortDoubleSeparatorKey) ∧
      (config.choose choice).doubleSeparator = (({} : Config).choose choice).doubleSeparator := by
  intro config choice
  have unambiguous : config.attributes.Unambiguous := by decide +kernel
  have given : choice.Gives doubleSeparatorKey ∨ choice.Gives shortDoubleSeparatorKey := by
    decide +kernel
  have agrees (kept : String)
      (found : config.attributes.value? doubleSeparatorKey = some kept) :
      Attributes.isYes kept = (({} : Config).choose choice).doubleSeparator := by
    have value : config.attributes.value? doubleSeparatorKey = some " Yes " := by decide +kernel
    cases value.symm.trans found
    decide +kernel
  exact ⟨unambiguous, given,
    (doubleSeparator_choose_iff config choice unambiguous given).mpr (Or.inr agrees)⟩

/-- The long key of a file keeps its value against the short key on the command line. -/
theorem doubleSeparator_choose_ne_alone :
    let config : Config := { attributes := .ofList [("MSSQL_DOUBLE_DECIMAL_SEPARATOR", "N")] }
    let choice : Choice := { attributes := [("DOUBLE_DECIMAL_SEPARATOR", "Y")] }
    config.attributes.Unambiguous ∧ choice.Gives shortDoubleSeparatorKey ∧
      (config.choose choice).doubleSeparator = false ∧
      (({} : Config).choose choice).doubleSeparator = true := by
  decide +kernel

end Config

end VendorSql
