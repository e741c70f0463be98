import Mathlib.Data.List.Basic
import Mathlib.Tactic.Push
import Prerender.Proofs.Bindings
import Prerender.Segment.Unchecked

/-!
# Settings that a module declares

`Normalises` says which values are right for which setting, and in which form the setting keeps
them. A configuration is read from the exports of a module exactly if they give some setting a
value, and every setting that they give one a right one (`Configures`); it then holds the normal
forms of these values (`Follows`), and they are all that it is read from
(`parse?_eq_some_iff`).

`Exports.config?_all_or_nothing` says so of whole exports. Names that are no settings do not matter,
the declared settings are read as the same configuration once more, and the generator does not
depend on the settings.
-/

namespace Prerender

/-! ### Values that are read -/

theorem Value.seconds?_eq_some_iff {value : Value} {seconds : Number} :
    value.seconds? = some seconds ↔ value = .number seconds ∧ seconds.isNonnegative = true := by
  cases value with
  | number given =>
    simp only [Value.seconds?, Option.ite_none_right_eq_some, Option.some.injEq,
      Value.number.injEq]
    constructor
    · rintro ⟨nonnegative, rfl⟩
      exact ⟨rfl, nonnegative⟩
    · rintro ⟨rfl, nonnegative⟩
      exact ⟨nonnegative, rfl⟩
  | _ => simp [Value.seconds?]

theorem Value.flag?_eq_some_iff {value : Value} {flag : Bool} :
    value.flag? = some flag ↔ value = .bool flag := by
  cases value <;> simp [Value.flag?]

theorem Revalidate.ofValue?_eq_some_iff {value : Value} {setting : Revalidate} :
    Revalidate.ofValue? value = some setting
      ↔ value = .bool false ∧ setting = .never
        ∨ ∃ seconds : Number, value = .number seconds ∧ seconds.isNonnegative = true
            ∧ setting = .after seconds := by
  unfold Revalidate.ofValue?
  split
  · simp [@eq_comm _ setting]
  · next other =>
    refine Iff.trans ?_ (or_iff_right fun never => other never.1).symm
    simp only [Option.map_eq_some_iff, Value.seconds?_eq_some_iff, and_assoc, @eq_comm _ setting]

theorem Rendering.ofValue?_eq_some_iff {value : Value} {mode : Rendering} :
    Rendering.ofValue? value = some mode ↔ value = .text mode.name := by
  cases value with
  | text content =>
    simp only [Rendering.ofValue?, Value.text.injEq]
    constructor
    · intro found
      simpa [eq_comm] using List.find?_some found
    · rintro rfl
      cases mode <;> rfl
  | _ => simp [Rendering.ofValue?]

theorem FetchCache.ofValue?_eq_some_iff {value : Value} {mode : FetchCache} :
    FetchCache.ofValue? value = some mode ↔ value = .text mode.name := by
  cases value with
  | text content =>
    simp only [FetchCache.ofValue?, Value.text.injEq]
    constructor
    · intro found
      simpa [eq_comm] using List.find?_some found
    · rintro rfl
      cases mode <;> rfl
  | _ => simp [FetchCache.ofValue?]

theorem Region.ofValue?_eq_some_iff {value : Value} {region : Region} :
    Region.ofValue? value = some region
      ↔ (∃ name, value = .text name ∧ region = .one name)
        ∨ ∃ names : List String,
            (value = .list (names.map .text) ∨ value = .tuple (names.map .text))
              ∧ region = .several names := by
  unfold Region.ofValue?
  split
  · simp [@eq_comm _ region]
  · next other =>
    refine Iff.trans ?_ (or_iff_right fun ⟨name, text, _⟩ => other name text).symm
    simp only [bind, pure, Option.bind_eq_some_iff, Value.sequence?_eq_some_iff,
      Value.texts?_eq_some_iff, Option.some.injEq]
    constructor
    · rintro ⟨items, listed, names, rfl, rfl⟩
      exact ⟨names, listed, rfl⟩
    · rintro ⟨names, listed, rfl⟩
      exact ⟨_, listed, names, rfl, rfl⟩

namespace SegmentConfig

/-! ### Values that are right -/

/-- A value is right for the setting of a name, which keeps it in its normal form. -/
inductive Normalises (name : String) : Value → Value → Prop where
  /-- Pages are never made anew. -/
  | never (named : name = "revalidate") : Normalises name (.bool false) (.bool false)
  /-- A number of seconds. -/
  | seconds {number : Number} (named : name = "revalidate" ∨ name = "max_duration")
    (nonnegative : number.isNonnegative = true) : Normalises name (.number number) (.number number)
  | rendering (mode : Rendering) (named : name = "dynamic") :
    Normalises name (.text mode.name) (.text mode.name)
  | flag (value : Bool) (named : name = "dynamic_params" ∨ name = "experimental_ppr") :
    Normalises name (.bool value) (.bool value)
  | caching (mode : FetchCache) (named : name = "fetch_cache") :
    Normalises name (.text mode.name) (.text mode.name)
  | region (text : String) (named : name = "preferred_region") :
    Normalises name (.text text) (.text text)
  /-- A list or tuple of regions, possibly without any. -/
  | regions {value : Value} {texts : List String} (named : name = "preferred_region")
    (listed : value = .list (texts.map .text) ∨ value = .tuple (texts.map .text)) :
    Normalises name value (.tuple (texts.map .text))

/-- A normal form is right itself, and kept as it is. -/
theorem Normalises.normal {name : String} {value normal : Value}
    (normalises : Normalises name value normal) : Normalises name normal normal := by
  cases normalises with
  | never named => exact .never named
  | seconds named nonnegative => exact .seconds named nonnegative
  | rendering mode named => exact .rendering mode named
  | flag value named => exact .flag value named
  | caching mode named => exact .caching mode named
  | region text named => exact .region text named
  | regions named _ => exact .regions named (Or.inr rfl)

theorem Normalises.ne_none {name : String} {value normal : Value}
    (normalises : Normalises name value normal) : normal ≠ .none := by
  cases normalises <;> rintro ⟨⟩

/-- A reader of the setting of a name accepts the values that are right for it, and no two settings
have the same normal form. -/
structure Reads {α : Type} (name : String) (read : Value → Option α) (toValue : α → Value) :
    Prop where
  normalises_iff : ∀ value normal, Normalises name value normal
    ↔ ∃ setting, read value = some setting ∧ toValue setting = normal
  injective : Function.Injective toValue

theorem reads_revalidate : Reads "revalidate" Revalidate.ofValue? Revalidate.toValue where
  normalises_iff value normal := by
    simp only [Revalidate.ofValue?_eq_some_iff]
    constructor
    · intro normalises
      cases normalises with
      | never _ => exact ⟨.never, Or.inl ⟨rfl, rfl⟩, rfl⟩
      | @seconds number _ nonnegative =>
        exact ⟨.after number, Or.inr ⟨number, rfl, nonnegative, rfl⟩, rfl⟩
      | _ => simp at *
    · rintro ⟨_, ⟨rfl, rfl⟩ | ⟨number, rfl, nonnegative, rfl⟩, rfl⟩
      · exact .never rfl
      · exact .seconds (Or.inl rfl) nonnegative
  injective a b same := by
    cases a <;> cases b <;> simp_all [Revalidate.toValue]

theorem reads_dynamic : Reads "dynamic" Rendering.ofValue? Rendering.toValue where
  normalises_iff value normal := by
    simp only [Rendering.ofValue?_eq_some_iff]
    constructor
    · intro normalises
      cases normalises with
      | rendering mode _ => exact ⟨mode, rfl, rfl⟩
      | _ => simp at *
    · rintro ⟨mode, rfl, rfl⟩
      exact .rendering mode rfl
  injective a b same := by
    cases a <;> cases b <;> simp_all [Rendering.toValue, Rendering.name]

theorem reads_flag {name : String} (named : name = "dynamic_params" ∨ name = "experimental_ppr") :
    Reads name Value.flag? Value.bool where
  normalises_iff value normal := by
    simp only [Value.flag?_eq_some_iff]
    constructor
    · intro normalises
      cases normalises with
      | flag value _ => exact ⟨value, rfl, rfl⟩
      | _ => rcases named with rfl | rfl <;> simp at *
    · rintro ⟨value, rfl, rfl⟩
      exact .flag value named
  injective _ _ same := Value.bool.inj same

theorem reads_fetchCache : Reads "fetch_cache" FetchCache.ofValue? FetchCache.toValue where
  normalises_iff value normal := by
    simp only [FetchCache.ofValue?_eq_some_iff]
    constructor
    · intro normalises
      cases normalises with
      | caching mode _ => exact ⟨mode, rfl, rfl⟩
      | _ => simp at *
    · rintro ⟨mode, rfl, rfl⟩
      exact .caching mode rfl
  injective a b same := by
    cases a <;> cases b <;> simp_all [FetchCache.toValue, FetchCache.name]

theorem reads_preferredRegion : Reads "preferred_region" Region.ofValue? Region.toValue where
  normalises_iff value normal := by
    simp only [Region.ofValue?_eq_some_iff]
    constructor
    · intro normalises
      cases normalises with
      | region text _ => exact ⟨.one text, Or.inl ⟨text, rfl, rfl⟩, rfl⟩
      | @regions _ texts _ listed => exact ⟨.several texts, Or.inr ⟨texts, listed, rfl⟩, rfl⟩
      | _ => simp at *
    · rintro ⟨_, ⟨text, rfl, rfl⟩ | ⟨texts, listed, rfl⟩, rfl⟩
      · exact .region text rfl
      · exact .regions rfl listed
  injective a b same := by
    cases a with
    | one name =>
      cases b with
      | one other => exact congrArg Region.one (Value.text.inj same)
      | several _ => cases same
    | several names =>
      cases b with
      | one _ => cases same
      | several others =>
        have apart : Function.Injective Value.text := fun _ _ => Value.text.inj
        exact congrArg Region.several (apart.list_map (Value.tuple.inj same))

theorem reads_maxDuration : Reads "max_duration" Value.seconds? Value.number where
  normalises_iff value normal := by
    simp only [Value.seconds?_eq_some_iff]
    constructor
    · intro normalises
      cases normalises with
      | @seconds number _ nonnegative => exact ⟨number, ⟨rfl, nonnegative⟩, rfl⟩
      | _ => simp at *
    · rintro ⟨number, ⟨rfl, nonnegative⟩, rfl⟩
      exact .seconds (Or.inr rfl) nonnegative
  injective _ _ same := Value.number.inj same

/-! ### One setting -/

/-- The value that bindings give a name, unless it is nothing. -/
def given? (bindings : Bindings Value) (name : String) : Option Value :=
  match bindings.lookup? name with
  | some .none => none
  | given => given

theorem given?_congr {a b : Bindings Value} {name : String}
    (same : a.lookup? name = b.lookup? name) : given? a name = given? b name := by
  rw [given?, same, given?]

section

variable {α : Type} {name : String} {read : Value → Option α} {toValue : α → Value}
  {bindings : Bindings Value}

theorem setting?_eq (read : Value → Option α) (bindings : Bindings Value) (name : String) :
    setting? read bindings name
      = match given? bindings name with
        | none => some none
        | some value => (read value).map some := by
  unfold setting? given?
  rcases bindings.lookup? name with _ | (_ | _) <;> rfl

/-- A setting is read as the normal form of the value that it is given, or as not declared. -/
theorem Reads.setting?_eq_some_iff (reads : Reads name read toValue) {setting : Option α} :
    setting? read bindings name = some setting
      ↔ Option.Rel (Normalises name) (given? bindings name) (setting.map toValue) := by
  rw [setting?_eq]
  cases given? bindings name with
  | none => cases setting <;> simp
  | some value =>
    cases setting with
    | none => simp
    | some setting =>
      simp only [Option.map_eq_some_iff, Option.some.injEq, exists_eq_right, Option.map_some,
        Option.rel_some_some, reads.normalises_iff]
      constructor
      · exact fun given => ⟨setting, given, rfl⟩
      · rintro ⟨other, given, same⟩
        exact reads.injective same ▸ given

theorem Reads.exists_setting? (reads : Reads name read toValue)
    (right : ∀ value, given? bindings name = some value → ∃ normal, Normalises name value normal) :
    ∃ setting, setting? read bindings name = some setting := by
  rw [setting?_eq]
  cases given : given? bindings name with
  | none => exact ⟨none, rfl⟩
  | some value =>
    obtain ⟨normal, normalises⟩ := right value given
    obtain ⟨setting, accepted, -⟩ := (reads.normalises_iff value normal).mp normalises
    exact ⟨some setting, Option.map_eq_some_iff.mpr ⟨setting, accepted, rfl⟩⟩

end

/-! ### All settings -/

/-- Bindings give some setting a value, and every setting that they give one a right one. -/
structure Configures (bindings : Bindings Value) : Prop where
  declares : ∃ name ∈ names, (given? bindings name).isSome = true
  right : ∀ name ∈ names, ∀ value, given? bindings name = some value →
    ∃ normal, Normalises name value normal

/-- A configuration holds, for each setting, the normal form of the value that bindings give it. -/
def Follows (config : SegmentConfig) (bindings : Bindings Value) : Prop :=
  ∀ setting ∈ config.settings,
    Option.Rel (Normalises setting.1) (given? bindings setting.1) setting.2

section

variable {config : SegmentConfig} {bindings : Bindings Value}

theorem follows_iff :
    config.Follows bindings
      ↔ setting? Revalidate.ofValue? bindings "revalidate" = some config.revalidate
        ∧ setting? Rendering.ofValue? bindings "dynamic" = some config.dynamic
        ∧ setting? Value.flag? bindings "dynamic_params" = some config.dynamicParams
        ∧ setting? FetchCache.ofValue? bindings "fetch_cache" = some config.fetchCache
        ∧ setting? Region.ofValue? bindings "preferred_region" = some config.preferredRegion
        ∧ setting? Value.flag? bindings "experimental_ppr" = some config.experimentalPpr
        ∧ setting? Value.seconds? bindings "max_duration" = some config.maxDuration := by
  rw [reads_revalidate.setting?_eq_some_iff, reads_dynamic.setting?_eq_some_iff,
    (reads_flag (Or.inl rfl)).setting?_eq_some_iff, reads_fetchCache.setting?_eq_some_iff,
    reads_preferredRegion.setting?_eq_some_iff, (reads_flag (Or.inr rfl)).setting?_eq_some_iff,
    reads_maxDuration.setting?_eq_some_iff]
  simp only [Follows, settings, List.forall_mem_cons, List.not_mem_nil, false_implies,
    implies_true, and_true]

theorem Configures.exists_follows (configures : Configures bindings) :
    ∃ config : SegmentConfig, config.Follows bindings := by
  obtain ⟨_, first⟩ := reads_revalidate.exists_setting? (configures.right _ (by decide))
  obtain ⟨_, second⟩ := reads_dynamic.exists_setting? (configures.right _ (by decide))
  obtain ⟨_, third⟩ := (reads_flag (Or.inl rfl)).exists_setting? (configures.right _ (by decide))
  obtain ⟨_, fourth⟩ := reads_fetchCache.exists_setting? (configures.right _ (by decide))
  obtain ⟨_, fifth⟩ := reads_preferredRegion.exists_setting? (configures.right _ (by decide))
  obtain ⟨_, sixth⟩ := (reads_flag (Or.inr rfl)).exists_setting? (configures.right _ (by decide))
  obtain ⟨_, seventh⟩ := reads_maxDuration.exists_setting? (configures.right _ (by decide))
  exact ⟨⟨_, _, _, _, _, _, _⟩,
    follows_iff.mpr ⟨first, second, third, fourth, fifth, sixth, seventh⟩⟩

theorem exists_mem_settings {name : String} (isSetting : name ∈ names) :
    ∃ kept, (name, kept) ∈ config.settings := by
  have same : names = config.settings.map (·.1) := rfl
  rw [same] at isSetting
  obtain ⟨⟨_, kept⟩, member, rfl⟩ := List.mem_map.mp isSetting
  exact ⟨kept, member⟩

theorem mem_names {setting : String × Option Value} (member : setting ∈ config.settings) :
    setting.1 ∈ names :=
  List.mem_map_of_mem (f := (·.1)) member

/-- The settings that are declared are those that are given a value. -/
theorem Follows.isSome_given? (follows : config.Follows bindings)
    {setting : String × Option Value} (member : setting ∈ config.settings) :
    (given? bindings setting.1).isSome = setting.2.isSome := by
  have related := follows setting member
  generalize given? bindings setting.1 = given, setting.2 = kept at related
  cases related <;> rfl

theorem declared_eq_nil_iff :
    config.declared = [] ↔ ∀ setting ∈ config.settings, setting.2 = none := by
  simp [declared, Bindings.present, List.filterMap_eq_nil_iff]

theorem Follows.declared_ne_nil_iff (follows : config.Follows bindings) :
    config.declared ≠ [] ↔ ∃ name ∈ names, (given? bindings name).isSome = true := by
  have same : names = config.settings.map (·.1) := rfl
  simp only [Ne, declared_eq_nil_iff, same, List.mem_map, exists_exists_and_eq_and]
  push Not
  apply exists_congr
  intro setting
  apply and_congr_right
  intro member
  rw [follows.isSome_given? member, ← Option.isSome_iff_ne_none]

/-- Every number that a configuration holds is zero or more. -/
theorem Follows.isNonnegative (follows : config.Follows bindings) (name : String) {number : Number}
    (declares : (name, some (.number number)) ∈ config.settings) :
    number.isNonnegative = true := by
  have related := follows _ declares
  generalize given? bindings name = given at related
  cases related with
  | some normalises =>
    cases normalises with
    | seconds _ nonnegative => exact nonnegative

/-- A configuration is read exactly from bindings that it follows and that give some setting a
value. -/
theorem parse?_eq_some_iff :
    parse? bindings = some config
      ↔ (∃ name ∈ names, (given? bindings name).isSome = true) ∧ config.Follows bindings := by
  constructor
  · intro parsed
    obtain ⟨revalidate, first, parsed⟩ := Option.bind_eq_some_iff.mp parsed
    obtain ⟨dynamic, second, parsed⟩ := Option.bind_eq_some_iff.mp parsed
    obtain ⟨dynamicParams, third, parsed⟩ := Option.bind_eq_some_iff.mp parsed
    obtain ⟨fetchCache, fourth, parsed⟩ := Option.bind_eq_some_iff.mp parsed
    obtain ⟨preferredRegion, fifth, parsed⟩ := Option.bind_eq_some_iff.mp parsed
    obtain ⟨experimentalPpr, sixth, parsed⟩ := Option.bind_eq_some_iff.mp parsed
    obtain ⟨maxDuration, seventh, parsed⟩ := Option.bind_eq_some_iff.mp parsed
    obtain ⟨declares, same⟩ := Option.ite_none_left_eq_some.mp parsed
    cases same
    have follows : Follows ⟨revalidate, dynamic, dynamicParams, fetchCache, preferredRegion,
        experimentalPpr, maxDuration⟩ bindings :=
      follows_iff.mpr ⟨first, second, third, fourth, fifth, sixth, seventh⟩
    exact ⟨follows.declared_ne_nil_iff.mp (mt List.isEmpty_iff.mpr declares), follows⟩
  · rintro ⟨declares, follows⟩
    obtain ⟨first, second, third, fourth, fifth, sixth, seventh⟩ := follows_iff.mp follows
    have some : ¬config.declared.isEmpty = true :=
      mt List.isEmpty_iff.mp (follows.declared_ne_nil_iff.mpr declares)
    simp only [parse?, first, second, third, fourth, fifth, sixth, seventh, bind, Option.bind_some]
    exact if_neg some

theorem parse?_isSome_iff : (∃ config, parse? bindings = some config) ↔ Configures bindings := by
  constructor
  · rintro ⟨config, parsed⟩
    obtain ⟨declares, follows⟩ := parse?_eq_some_iff.mp parsed
    refine ⟨declares, ?_⟩
    intro name isSetting value given
    obtain ⟨kept, member⟩ := exists_mem_settings isSetting
    have related := follows _ member
    rw [given] at related
    cases related with
    | some normalises => exact ⟨_, normalises⟩
  · intro configures
    obtain ⟨config, follows⟩ := configures.exists_follows
    exact ⟨config, parse?_eq_some_iff.mpr ⟨configures.declares, follows⟩⟩

/-- Only what bindings give to settings matters. -/
theorem parse?_congr {others : Bindings Value}
    (same : ∀ name ∈ names, others.lookup? name = bindings.lookup? name) :
    parse? others = parse? bindings := by
  have given : ∀ name ∈ names, given? others name = given? bindings name :=
    fun name isSetting => given?_congr (same name isSetting)
  apply Option.ext
  intro config
  rw [parse?_eq_some_iff, parse?_eq_some_iff]
  apply and_congr
  · exact exists_congr fun name => and_congr_right fun isSetting => by rw [given name isSetting]
  · exact forall₂_congr fun setting member => by rw [given setting.1 (mem_names member)]

/-! ### Declared settings -/

theorem Follows.names_declared (follows : config.Follows bindings) :
    config.declared.names = names.filter fun name => (given? bindings name).isSome := by
  have same : names = config.settings.map (·.1) := rfl
  rw [SegmentConfig.declared, Bindings.names_present, same, List.filter_map]
  congr 1
  exact List.filter_congr fun setting member => (follows.isSome_given? member).symm

/-- What a configuration declares follows itself: normal forms are right, and kept. -/
theorem Follows.declared (follows : config.Follows bindings) : config.Follows config.declared := by
  intro setting member
  have related := follows setting member
  have found : config.declared.lookup? setting.1 = setting.2 := config.lookup?_declared member
  rw [given?, found]
  generalize given? bindings setting.1 = given, setting.2 = kept at related
  cases related with
  | none => exact .none
  | some normalises =>
    split
    · next nothing => exact absurd (Option.some.inj nothing) normalises.ne_none
    · exact .some normalises.normal

theorem parse?_declared (parsed : parse? bindings = some config) :
    parse? config.declared = some config := by
  obtain ⟨declares, follows⟩ := parse?_eq_some_iff.mp parsed
  have again := follows.declared
  have nonempty := follows.declared_ne_nil_iff.mpr declares
  exact parse?_eq_some_iff.mpr ⟨again.declared_ne_nil_iff.mp nonempty, again⟩

end

end SegmentConfig

/-! ### Exports -/

/-- Bindings as a mapping holds them. -/
def Bindings.toMapping (bindings : Bindings Value) : Value :=
  .mapping (bindings.map fun (name, value) => (.text name, value))

theorem Bindings.namespace?_toMapping (bindings : Bindings Value) :
    bindings.toMapping.namespace? = some bindings := by
  simp [toMapping, Value.namespace?, Entries.named, List.filterMap_map]

theorem Value.function?_eq_some_iff {value : Value} {function : UserFunction} :
    value.function? = some function ↔ value = .function function.name function.run := by
  cases value with
  | function name run =>
    obtain ⟨otherName, otherRun⟩ := function
    simp [Value.function?]
  | _ => simp [Value.function?]

namespace Exports

open SegmentConfig (names given? Configures Normalises)

theorem get?_eq_lookup? (exports : Value) (name : String) :
    get? exports name = (exports.namespace?.getD []).lookup? name := by
  unfold get?
  cases exports.namespace? <;> rfl

theorem config?_eq_parse? (exports : Value) :
    config? exports = SegmentConfig.parse? (exports.namespace?.getD []) := by
  unfold config?
  cases exports.namespace? <;> rfl

theorem generator?_eq_some_iff {exports : Value} {function : UserFunction} :
    generator? exports = some function
      ↔ get? exports generatorName = some (.function function.name function.run) := by
  simp only [generator?, function?, bind, Option.bind_eq_some_iff, Value.function?_eq_some_iff,
    exists_eq_right]

/-- The configuration of a module is read as a whole or not at all: exactly if the exports are a
namespace that gives some setting a value, and every setting that it gives one a right one. It
declares these settings in their normal forms, and what it declares is read as the same
configuration again. Whatever the exports bind to other names does not matter; nor do the settings
to the generator, which is the function that stands under its name. -/
theorem config?_all_or_nothing (exports : Value) :
    ((∃ config, config? exports = some config)
        ↔ ∃ bindings, exports.namespace? = some bindings ∧ Configures bindings)
      ∧ (∀ config bindings, config? exports = some config → exports.namespace? = some bindings →
          config.declared.names = names.filter (fun name => (given? bindings name).isSome)
            ∧ (∀ name ∈ names, ∀ value, given? bindings name = some value →
                ∃ normal, config.declared.lookup? name = some normal ∧ Normalises name value normal)
            ∧ config? config.declared.toMapping = some config)
      ∧ (∀ other, (∀ name ∈ names, get? other name = get? exports name) →
          config? other = config? exports)
      ∧ (∀ other, get? other generatorName = get? exports generatorName →
          generator? other = generator? exports)
      ∧ ∀ function, generator? exports = some function
          ↔ get? exports generatorName = some (.function function.name function.run) := by
  refine ⟨?_, ?_, ?_, ?_, fun _ => generator?_eq_some_iff⟩
  · simp only [← SegmentConfig.parse?_isSome_iff, config?, bind, Option.bind_eq_some_iff]
    constructor
    · rintro ⟨config, bindings, structured, parsed⟩
      exact ⟨bindings, structured, config, parsed⟩
    · rintro ⟨bindings, structured, config, parsed⟩
      exact ⟨config, bindings, structured, parsed⟩
  · intro config bindings parsed structured
    rw [config?_eq_parse?, structured, Option.getD_some] at parsed
    obtain ⟨-, follows⟩ := SegmentConfig.parse?_eq_some_iff.mp parsed
    refine ⟨follows.names_declared, ?_, ?_⟩
    · intro name isSetting value given
      obtain ⟨kept, member⟩ := SegmentConfig.exists_mem_settings isSetting
      have related := follows _ member
      rw [given] at related
      cases related with
      | some normalises => exact ⟨_, config.lookup?_declared member, normalises⟩
    · rw [config?_eq_parse?, Bindings.namespace?_toMapping, Option.getD_some]
      exact SegmentConfig.parse?_declared parsed
  · intro other same
    rw [config?_eq_parse?, config?_eq_parse?]
    apply SegmentConfig.parse?_congr
    intro name isSetting
    rw [← get?_eq_lookup?, ← get?_eq_lookup?, same name isSetting]
  · intro other same
    rw [generator?, generator?, function?, function?, same]

theorem config?_all_or_nothing_regions :
    let generator : Value := .function "posts" fun _ _ => .ok (.list [])
    let regions : Value := .list [.text "iad1", .text "sfo1"]
    let exports : Value := .moduleObject
      [("title", .text "Blog"), ("preferred_region", regions), ("dynamic", .none),
        ("revalidate", .number (.int 60)), (generatorName, generator)]
    let moved : Value := .mapping
      [(.text "revalidate", .number (.int 60)), (.number (.int 1), .none),
        (.text "preferred_region", regions), (.text "dynamic", .none)]
    let wrong : Value := .object [("max_duration", .bool true), (generatorName, generator)]
    (∃ config, config? exports = some config
        ∧ config.declared.names = ["revalidate", "preferred_region"]
        ∧ config? config.declared.toMapping = some config
        ∧ config? moved = some config)
      ∧ config? wrong = none ∧ generator? wrong = generator? exports
      ∧ (generator? exports).isSome = true := by
  intro generator regions exports moved wrong
  have parsed : config? exports
      = some { revalidate := some (.after (.int 60))
               preferredRegion := some (.several ["iad1", "sfo1"]) } := by
    decide +kernel
  obtain ⟨-, reads, unseen, same, -⟩ := config?_all_or_nothing exports
  obtain ⟨declares, -, again⟩ := reads _ _ parsed rfl
  refine ⟨⟨_, parsed, declares, again, (unseen moved ?_).trans parsed⟩, by decide +kernel,
    same wrong rfl, rfl⟩
  intro name isSetting
  simp only [names, SegmentConfig.settings, List.map_cons, List.map_nil, List.mem_cons,
    List.not_mem_nil, or_false] at isSetting
  rcases isSetting with rfl | rfl | rfl | rfl | rfl | rfl | rfl <;> rfl

end Exports

end Prerender
