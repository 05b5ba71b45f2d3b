import VendorSql.Proofs.AttributePrecedence
import VendorSql.Vendor.Builtin

/-!
# Attributes that a vendor recognizes

Which keys have a part in a profile and which are reported as ignored is said in two places: the
settings look up one key after another, and the report goes by a list of keys. The two agree. A
profile is a function of what the attributes say under the listed keys, so every text that is made
with it is one too; a key is reported exactly if it is a spelling of none of them, and exactly then
no value of it makes a difference to any profile.
-/
namespace VendorSql

open Text (equalIgnoringCase)

namespace Vendor

def recognizedKeys (vendor : Vendor) : List String :=
  CommonOptions.keys ++ vendor.ownKeys

/-- Whether a key is a spelling of a recognized one. -/
def Recognizes (vendor : Vendor) (key : String) : Prop :=
  ∃ recognized ∈ vendor.recognizedKeys, equalIgnoringCase key recognized = true

/-- Two maps say the same as far as the vendor can tell. -/
def Agree (vendor : Vendor) (left right : Attributes) : Prop :=
  ∀ key ∈ vendor.recognizedKeys, left.value? key = right.value? key

instance (vendor : Vendor) (left right : Attributes) : Decidable (vendor.Agree left right) :=
  inferInstanceAs (Decidable (∀ key ∈ vendor.recognizedKeys, _))

theorem not_recognizes_iff (vendor : Vendor) (key : String) :
    ¬ vendor.Recognizes key ↔
      ∀ recognized ∈ vendor.recognizedKeys, equalIgnoringCase key recognized = false := by
  simp [Recognizes]

end Vendor

/-! ### What is read -/

theorem CommonOptions.ofAttributes_congr {left right : Attributes}
    (same : ∀ key ∈ CommonOptions.keys, left.value? key = right.value? key) :
    CommonOptions.ofAttributes left = CommonOptions.ofAttributes right := by
  have flags (key : String) (member : key ∈ CommonOptions.keys) :
      left.flag? key = right.flag? key := by
    rw [Attributes.flag?, Attributes.flag?, same key member]
  simp only [ofAttributes, flags booleanTypeKey (by simp [keys]),
    flags quoteAllKey (by simp [keys]), flags forceLowerKey (by simp [keys]),
    flags forceUpperKey (by simp [keys])]

namespace Vendor

/-- Of the settings that not all vendors have, a profile has the one of its vendor. -/
theorem profile_congr {vendor : Vendor} {left right : Settings}
    (common : left.common = right.common)
    (separator : vendor = sqlServer → left.doubleSeparator = right.doubleSeparator)
    (url : vendor = generic → left.customUrl = right.customUrl) :
    vendor.profile left = vendor.profile right := by
  cases vendor with
  | sqlServer => simp only [profile, common, separator rfl]
  | postgreSql => simp only [profile, common]
  | mySql => simp only [profile, common]
  | generic => simp only [profile, common, url rfl]

/-- Attributes that agree lead to the same profile. -/
theorem Agree.result_configure {vendor : Vendor} {left right : Attributes}
    (agree : vendor.Agree left right) :
    (vendor.configure left).result = (vendor.configure right).result := by
  have common (key : String) (member : key ∈ CommonOptions.keys) :
      left.value? key = right.value? key :=
    agree key (List.mem_append_left _ member)
  have own (key : String) (member : key ∈ vendor.ownKeys) : left.value? key = right.value? key :=
    agree key (List.mem_append_right _ member)
  -- A profile looks at the common options and at the keys of its own vendor, and at no others.
  apply profile_congr
  · exact CommonOptions.ofAttributes_congr common
  · rintro rfl
    simp only [Settings.ofAttributes, Attributes.flag?,
      own Settings.doubleSeparatorKey (by simp [ownKeys]),
      own Settings.shortDoubleSeparatorKey (by simp [ownKeys])]
  · rintro rfl
    simp only [Settings.ofAttributes, own Settings.customUrlKey (by simp [ownKeys])]

end Vendor

/-! ### What is reported -/

namespace Attributes

theorem value?_insert_other (attributes : Attributes) {given key : String}
    (differ : equalIgnoringCase given key = false) (value : String) :
    Attributes.value? (attributes.insert given value) key = attributes.value? key := by
  rw [value?_eq_head?, spellings_insert, differ, if_neg Bool.false_ne_true, ← value?_eq_head?]

theorem value?_erase_other (attributes : Attributes) {given key : String}
    (differ : equalIgnoringCase given key = false) :
    Attributes.value? (attributes.erase given) key = attributes.value? key := by
  rw [value?_eq_head?, spellings_erase_other _ differ, ← value?_eq_head?]

/-- The attributes without those of the given keys. -/
def without (attributes : Attributes) (removed : List String) : Attributes :=
  removed.foldl OrderedMap.erase attributes

theorem without_cons (attributes : Attributes) (given : String) (removed : List String) :
    attributes.without (given :: removed) = without (attributes.erase given) removed := rfl

theorem keys_without (attributes : Attributes) (removed : List String) :
    (attributes.without removed).keys = attributes.keys.filter (· ∉ removed) := by
  -- The induction is on what is removed, and each step filters the keys once more.
  induction removed generalizing attributes with
  | nil => simp [without]
  | cons given removed ih =>
    have erased : (attributes.erase given).keys = attributes.keys.filter (· ≠ given) := by
      rw [OrderedMap.keys, OrderedMap.keys, List.filter_map]
      rfl
    rw [without_cons, ih, erased, List.filter_filter]
    apply List.filter_congr
    intro key _
    by_cases same : key = given <;> simp [same]

theorem value?_without {attributes : Attributes} {removed : List String} {key : String}
    (differ : ∀ given ∈ removed, equalIgnoringCase given key = false) :
    (attributes.without removed).value? key = attributes.value? key := by
  induction removed generalizing attributes with
  | nil => rfl
  | cons given removed ih =>
    have later (other : String) (member : other ∈ removed) : equalIgnoringCase other key = false :=
      differ other (List.mem_cons_of_mem given member)
    rw [without_cons, ih later, value?_erase_other _ (differ given List.mem_cons_self)]

end Attributes

namespace Vendor

def ignoredKeys (vendor : Vendor) (attributes : Attributes) : List String :=
  attributes.unrecognized vendor.recognizedKeys

theorem mem_ignoredKeys_iff (vendor : Vendor) (attributes : Attributes) (key : String) :
    key ∈ vendor.ignoredKeys attributes ↔ key ∈ attributes.keys ∧ ¬ vendor.Recognizes key := by
  rw [not_recognizes_iff]
  simp [ignoredKeys, Attributes.unrecognized, Text.equalIgnoringCase_comm key]

/-- What is left when the reported keys are gone gives the same profile and nothing to report. -/
theorem configure_without_ignoredKeys (vendor : Vendor) (attributes : Attributes) :
    vendor.configure (attributes.without (vendor.ignoredKeys attributes)) =
      { result := (vendor.configure attributes).result } := by
  have agree : vendor.Agree (attributes.without (vendor.ignoredKeys attributes)) attributes := by
    intro key member
    apply Attributes.value?_without
    intro given ignored
    have unknown := ((mem_ignoredKeys_iff _ _ _).mp ignored).2
    exact (vendor.not_recognizes_iff given).mp unknown key member
  -- Nothing new can be reported, since no key has come in.
  have quiet : vendor.ignoredKeys (attributes.without (vendor.ignoredKeys attributes)) = [] := by
    rw [List.eq_nil_iff_forall_not_mem]
    intro key ignored
    obtain ⟨present, unknown⟩ := (mem_ignoredKeys_iff _ _ _).mp ignored
    rw [Attributes.keys_without, List.mem_filter] at present
    have reported := (mem_ignoredKeys_iff _ _ _).mpr ⟨present.1, unknown⟩
    exact of_decide_eq_true present.2 reported
  have silent : (vendor.configure (attributes.without (vendor.ignoredKeys attributes))).events =
      [] := congrArg (List.map (Event.ignoredAttribute vendor.tag)) quiet
  exact congrArg₂ Traced.mk agree.result_configure silent

end Vendor

/-! ### What makes a difference -/

namespace Attributes

def yes (key : String) : Attributes :=
  OrderedMap.empty.insert key "Y"

theorem value?_yes {given key : String} (same : equalIgnoringCase given key = true) :
    (yes given).value? key = some "Y" := by
  rw [value?_eq_head?, yes, spellings_insert, same, if_pos rfl]
  rfl

theorem flag?_yes {given key : String} (same : equalIgnoringCase given key = true) :
    (yes given).flag? key = some true := by
  have agrees : isYes "Y" = true := by decide +kernel
  rw [flag?, value?_yes same, Option.map_some, agrees]

theorem flag?_empty (key : String) : Attributes.flag? .empty key = none := rfl

end Attributes

namespace Vendor

theorem options_configure (vendor : Vendor) (attributes : Attributes) :
    (vendor.configure attributes).result.options = .ofAttributes attributes :=
  vendor.profile_options _

/-- Saying yes under any common key changes the options. -/
theorem ofAttributes_yes_ne {given key : String} (member : key ∈ CommonOptions.keys)
    (same : equalIgnoringCase given key = true) :
    CommonOptions.ofAttributes (.yes given) ≠ CommonOptions.ofAttributes .empty := by
  intro unchanged
  have affirmed := Attributes.flag?_yes same
  simp only [CommonOptions.keys, List.mem_cons, List.not_mem_nil, or_false] at member
  -- In each case the flag of the key is set on one side and missing on the other.
  rcases member with rfl | rfl | rfl | rfl <;>
    simp [CommonOptions.ofAttributes, affirmed, Attributes.flag?_empty] at unchanged

theorem doubleSeparator_yes {given key : String} (own : key ∈ sqlServer.ownKeys)
    (same : equalIgnoringCase given key = true) :
    (Settings.ofAttributes (.yes given)).doubleSeparator = true := by
  have affirmed := Attributes.flag?_yes same
  simp only [ownKeys, List.mem_cons, List.not_mem_nil, or_false] at own
  rcases own with rfl | rfl
  · simp only [Settings.ofAttributes, affirmed, Option.some_or, Option.getD_some]
  · -- The long key is absent, or else says yes as well.
    cases long : equalIgnoringCase given Settings.doubleSeparatorKey with
    | true =>
      simp only [Settings.ofAttributes, Attributes.flag?_yes long, Option.some_or,
        Option.getD_some]
    | false =>
      have absent : (Attributes.yes given).flag? Settings.doubleSeparatorKey = none := by
        rw [Attributes.flag?, Attributes.yes, Attributes.value?_insert_other _ long]
        rfl
      simp only [Settings.ofAttributes, absent, affirmed, Option.none_or, Option.getD_some]

theorem customUrl_yes {given key : String} (own : key ∈ generic.ownKeys)
    (same : equalIgnoringCase given key = true) :
    (Settings.ofAttributes (.yes given)).customUrl = some "Y" := by
  have written : Text.trim "Y" ≠ "" := by decide +kernel
  simp only [ownKeys, List.mem_singleton] at own
  subst own
  simp only [Settings.ofAttributes, Attributes.value?_yes same, Option.filter_some,
    decide_eq_true written, if_true]

/-- Every recognized key, in any spelling, changes the profile if it says yes. -/
theorem result_configure_yes_ne {vendor : Vendor} {given : String}
    (recognized : vendor.Recognizes given) :
    (vendor.configure (.yes given)).result ≠ (vendor.configure .empty).result := by
  obtain ⟨key, member, same⟩ := recognized
  intro unchanged
  -- Each key has some part of the profile that shows it: options, separator or URL.
  rcases List.mem_append.mp member with common | own
  · have options := congrArg Profile.options unchanged
    rw [options_configure, options_configure] at options
    exact ofAttributes_yes_ne common same options
  · cases vendor with
    | sqlServer =>
      have separator := congrArg Profile.separator unchanged
      simp only [configure, profile, doubleSeparator_yes own same, if_true] at separator
      revert separator
      decide
    | generic =>
      have url := congrArg Profile.url unchanged
      simp only [configure, profile, customUrl_yes own same] at url
      cases url
    | postgreSql => cases own
    | mySql => cases own

theorem agree_insert {vendor : Vendor} {key : String} (unknown : ¬ vendor.Recognizes key)
    (attributes : Attributes) (value : String) :
    vendor.Agree (attributes.insert key value) attributes := by
  intro recognized member
  have differ := (vendor.not_recognizes_iff key).mp unknown recognized member
  exact attributes.value?_insert_other differ value

/-- Maps that agree on what is recognized give one profile. Of each map, the keys that are not
recognized are reported once each and in order, and the profile can do without them. And they are
the keys that make no difference, whatever their values and whatever the other attributes. -/
theorem configure_reads_recognized (vendor : Vendor) :
    (∀ left right : Attributes, vendor.Agree left right →
      (vendor.configure left).result = (vendor.configure right).result) ∧
    (∀ attributes : Attributes, ∃ ignored : List String,
      (vendor.configure attributes).events = ignored.map (.ignoredAttribute vendor.tag) ∧
      (∀ event ∈ (vendor.configure attributes).events, event.level = .debug) ∧
      ignored.Sublist attributes.keys ∧ ignored.Nodup ∧
      (∀ key, key ∈ ignored ↔ key ∈ attributes.keys ∧ ¬ vendor.Recognizes key) ∧
      vendor.configure (attributes.without ignored) =
        { result := (vendor.configure attributes).result }) ∧
    ∀ key, ¬ vendor.Recognizes key ↔ ∀ (attributes : Attributes) (value : String),
      (vendor.configure (attributes.insert key value)).result =
        (vendor.configure attributes).result := by
  refine ⟨fun left right agree => agree.result_configure, ?_, ?_⟩
  · intro attributes
    have ordered : (vendor.ignoredKeys attributes).Sublist attributes.keys := List.filter_sublist
    refine ⟨vendor.ignoredKeys attributes, rfl, ?_, ordered, attributes.distinct.sublist ordered,
      vendor.mem_ignoredKeys_iff attributes, vendor.configure_without_ignoredKeys attributes⟩
    intro event reported
    obtain ⟨key, -, rfl⟩ := List.mem_map.mp reported
    rfl
  · intro key
    constructor
    · intro unknown attributes value
      exact (agree_insert unknown attributes value).result_configure
    · -- A recognized key is not inert, as it can be seen when it says yes and nothing else is
      -- given.
      intro inert recognized
      exact result_configure_yes_ne recognized (inert .empty "Y")

/-- PostgreSQL takes no notice of a URL, nor of a second spelling. -/
theorem configure_reads_recognized_postgreSql :
    let left : Attributes :=
      .ofList [("custom_url", "jdbc:h2:mem"), ("quote_all_fields", "Y"), ("QUOTE_ALL_FIELDS", "N")]
    let right : Attributes := .ofList [("Quote_All_Fields", "Y")]
    postgreSql.Agree left right ∧
      (postgreSql.configure left).result = (postgreSql.configure right).result := by
  intro left right
  have agree : postgreSql.Agree left right := by decide +kernel
  exact ⟨agree, (configure_reads_recognized postgreSql).1 left right agree⟩

end Vendor

end VendorSql
