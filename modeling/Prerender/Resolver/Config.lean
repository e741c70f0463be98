import Prerender.PagePaths
import Prerender.Setting

/-!
# Settings of the resolver

`ResolverOptions` are the settings as they are given, of any shape. `ResolverConfig.ofOptions`
accepts them or says what is wrong with the first one that is not right, unless that cannot be
compared or written; what it accepts is a
`ResolverConfig`, whose fields hold what was checked.
-/

namespace Prerender

/-- The partial prerendering flag, in the form in which it was given. -/
inductive PprSetting where
  | flag (value : Bool)
  | incremental
  /-- A number that equals a truth value, that is, zero or one. -/
  | number (value : Number)
deriving DecidableEq, Repr

namespace PprSetting

/-- Reads a truth value, a number equal to one, or the word for the incremental mode. -/
def ofValue? : Value → Option PprSetting
  | .bool value => some (.flag value)
  | .number value =>
    if value.sameValue (.int 1) || value.sameValue (.int 0) then some (.number value) else none
  | .text "incremental" => some .incremental
  | _ => none

/-- The value that a flag is read from. -/
def toValue : PprSetting → Value
  | .flag value => .bool value
  | .incremental => .text "incremental"
  | .number value => .number value

/-- How far a build uses partial prerendering under a flag. -/
def mode (setting : PprSetting) : PprMode :=
  PprMode.ofValue setting.toValue

end PprSetting

/-- The settings of the resolver as they are given. -/
structure ResolverOptions where
  ppr : Value := .bool false
  pprFallbacks : Value := .bool true
  concurrency : Value := .number (.int 8)
  locales : Value := .tuple []
  defaultLocale : Value := .none

namespace ResolverOptions

/-- The names of all settings, in their order. -/
def names : List String :=
  ["ppr", "ppr_fallbacks", "concurrency", "locales", "default_locale"]

/-- The settings that are given by some bindings. One of another name is an error. -/
def ofBindings (given : Bindings Value) : Except Crash ResolverOptions := do
  Setting.checkNames "ResolverConfig" names given.names
  let standard : ResolverOptions := {}
  return {
    ppr := (given.lookup? "ppr").getD standard.ppr
    pprFallbacks := (given.lookup? "ppr_fallbacks").getD standard.pprFallbacks
    concurrency := (given.lookup? "concurrency").getD standard.concurrency
    locales := (given.lookup? "locales").getD standard.locales
    defaultLocale := (given.lookup? "default_locale").getD standard.defaultLocale }

end ResolverOptions

/-- The settings of the resolver. -/
structure ResolverConfig where
  ppr : PprSetting
  /-- Whether pages that are prerendered in part have fallback shells; any value that counts as
  true turns them on. -/
  pprFallbacks : Value
  /-- How many calls may be in flight at once. -/
  concurrency : Int
  /-- The locales that listed pages are prefixed with. -/
  locales : Locales
  one_le_concurrency : 1 ≤ concurrency
  locale_ne_empty : ∀ locale ∈ locales.all, locale ≠ ""
  default_mem : ∀ locale, locales.default = some locale → locale ∈ locales.all
  default_isSome : locales.all ≠ [] → locales.default.isSome = true

namespace ResolverConfig

/-- Accepts the number of calls in flight. -/
def concurrency? : Value → Except Raised Int
  | .number (.int value) =>
    if value < 1 then
      (Value.number (.int value)).refused fun shown => .config (.concurrencyRange shown)
    else .ok value
  | value => .error (.failure (.config (.concurrencyType value.typeName)))

/-- Accepts a tuple of locales, none of them empty. -/
def locales? (given : Value) : Except Raised (List String) :=
  match given with
  | .tuple items =>
    match Value.texts? items with
    | some names =>
      if names.all fun name => name ≠ "" then .ok names
      else given.refused fun shown => .config (.invalidLocales shown)
    | none => given.refused fun shown => .config (.invalidLocales shown)
  | _ => given.refused fun shown => .config (.invalidLocales shown)

/-- What is raised of a default locale that is not among the locales. -/
def unknownDefault (locales : List String) (given : Value) : Raised :=
  match given.display with
  | .ok received => (Value.tuple (locales.map .text)).refusal fun shown =>
    .config (.unknownDefaultLocale received shown)
  | .error raised => raised

/-- Accepts a default locale that is one of the locales, or none if there are none. -/
def defaultLocale? (locales : List String) (given : Value) : Except Raised (Option String) :=
  match given with
  | .none =>
    if locales.isEmpty then .ok none else .error (.failure (.config .missingDefaultLocale))
  | .text name =>
    if locales.contains name then .ok (some name) else .error (unknownDefault locales given)
  | _ =>
    -- No value of another type equals a locale, but comparing it with one may raise something.
    match given.isAmong (locales.map .text) with
    | .ok _ => .error (unknownDefault locales given)
    | .error raised => .error raised

/-- Accepts a flag for partial prerendering. -/
def ppr? (given : Value) : Except Raised PprSetting :=
  match PprSetting.ofValue? given with
  | some ppr => .ok ppr
  | none => do
    let _ ← given.isAmong [.bool true, .bool false, .text "incremental"]
    given.refused fun shown => .config (.invalidPpr shown)

theorem one_le_of_concurrency? {given : Value} {concurrency : Int}
    (accepted : concurrency? given = .ok concurrency) : 1 ≤ concurrency := by
  unfold concurrency? at accepted
  split at accepted
  · split at accepted
    · cases accepted
    · cases accepted
      omega
  · cases accepted

theorem ne_empty_of_locales? {given : Value} {locales : List String}
    (accepted : locales? given = .ok locales) : ∀ locale ∈ locales, locale ≠ "" := by
  intro locale member
  unfold locales? at accepted
  split at accepted
  · split at accepted
    · split at accepted
      next nonempty =>
        cases accepted
        simpa using List.all_eq_true.mp nonempty locale member
      next => cases accepted
    · cases accepted
  · cases accepted

theorem mem_of_defaultLocale? {given : Value} {locales : List String} {locale : String}
    (accepted : defaultLocale? locales given = .ok (some locale)) : locale ∈ locales := by
  unfold defaultLocale? at accepted
  split at accepted
  · split at accepted <;> cases accepted
  · split at accepted
    next member =>
      cases accepted
      exact List.contains_iff_mem.mp member
    next => cases accepted
  · split at accepted <;> cases accepted

theorem isSome_of_defaultLocale? {given : Value} {locales : List String} {default : Option String}
    (accepted : defaultLocale? locales given = .ok default) (configured : locales ≠ []) :
    default.isSome = true := by
  unfold defaultLocale? at accepted
  split at accepted
  · split at accepted
    next none => exact absurd (List.isEmpty_iff.mp none) configured
    next => cases accepted
  · split at accepted
    · cases accepted
      rfl
    · cases accepted
  · split at accepted <;> cases accepted

/-- The settings, if all of them are accepted; else what is wrong with the first one that is
not. -/
def ofOptions (options : ResolverOptions) : Except Raised ResolverConfig :=
  match ppr? options.ppr with
  | .error raised => .error raised
  | .ok ppr =>
    match hconcurrency : concurrency? options.concurrency with
    | .error raised => .error raised
    | .ok concurrency =>
      match hlocales : locales? options.locales with
      | .error raised => .error raised
      | .ok locales =>
        match hdefault : defaultLocale? locales options.defaultLocale with
        | .error raised => .error raised
        | .ok default =>
          .ok {
            ppr
            pprFallbacks := options.pprFallbacks
            concurrency
            locales := ⟨locales, default⟩
            one_le_concurrency := one_le_of_concurrency? hconcurrency
            locale_ne_empty := ne_empty_of_locales? hlocales
            default_mem := fun _ chosen =>
              mem_of_defaultLocale? (hdefault.trans (congrArg _ chosen))
            default_isSome := isSome_of_defaultLocale? hdefault }

/-- The settings that hold where none are given. -/
def default : ResolverConfig where
  ppr := .flag false
  pprFallbacks := .bool true
  concurrency := 8
  locales := {}
  one_le_concurrency := by decide
  locale_ne_empty := by simp
  default_mem := by simp
  default_isSome := by simp

end ResolverConfig

end Prerender
