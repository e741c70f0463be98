import Prerender.Proofs.PagePaths.Ending
import Prerender.Proofs.PagePaths.Values
import Prerender.Proofs.Pathname.Capture
import Prerender.Proofs.Value.Raising
import Prerender.Resolver.Config

/-!
# What a page lists

`Accepts` says which entries of a listing are well formed, and what each of them amounts to.
`staticPaths_listed` says what that makes of the whole listing: the page lists the URL paths of all
its entries, without repetitions, if every entry is well formed, and nothing at all otherwise.
-/

namespace Prerender

open Pathname

namespace PagePaths

/-! ### Well-formed entries -/

/-- The locale that stands in an entry: none, or one of the site. -/
inductive NamesLocale (locales : List String) : Option Value → Option String → Prop where
  | silent : NamesLocale locales none none
  | nothing : NamesLocale locales (some .none) none
  | configured {locale : String} (member : locale ∈ locales) :
    NamesLocale locales (some (.text locale)) (some locale)

theorem NamesLocale.mem {locales : List String} {given : Option Value} {locale : String}
    (names : NamesLocale locales given (some locale)) : locale ∈ locales := by
  cases names with
  | configured member => exact member

/-- Values are read as a record that binds the parameters of a page, in their order. -/
def Records (values : Bindings Value) (params : List SegmentParam) (record : ParamRecord) : Prop :=
  List.Forall₂
    (fun param binding => binding.1 = param.name
      ∧ Reading param.kind (values.lookup? param.name) binding.2)
    params record

/-- What an entry of a listing amounts to if it is well formed. -/
inductive Accepts (page : ListedPage) (params : List SegmentParam) (locales : List String) :
    Value → Entry → Prop where
  /-- A URL path behind a locale of the site. -/
  | localized {url locale : String} {rest : List String} {record : ParamRecord}
      (spelled : components url = locale :: rest) (configured : locale ∈ locales)
      (matched : captures? page.pathname (joinSlashes rest) = some record) :
      Accepts page params locales (.text url) ⟨record, some locale⟩
  /-- A URL path that does not start with a locale. -/
  | bare {url : String} {record : ParamRecord}
      (foreign : ∀ first ∈ (components url).head?, first ∉ locales)
      (matched : captures? page.pathname url = some record) :
      Accepts page params locales (.text url) ⟨record, none⟩
  /-- A mapping of parameters and, possibly, a locale. -/
  | mapping {entries values : Entries} {record : ParamRecord} {locale : Option String}
      (expected : ∀ entry ∈ entries, entry.1 = .text "params" ∨ entry.1 = .text "locale")
      (stands : (Entries.named entries).lookup? "params" = some (.mapping values))
      (names : NamesLocale locales ((Entries.named entries).lookup? "locale") locale)
      (records : Records (Entries.named values) params record) :
      Accepts page params locales (.mapping entries) ⟨record, locale⟩

/-- Either the components of a URL path start with a locale, or all of them are kept. -/
theorem splitLocale_cases (locales components : List String) :
    (∃ locale ∈ locales, ∃ rest, components = locale :: rest
        ∧ splitLocale locales components = (some locale, rest))
      ∨ (∀ first ∈ components.head?, first ∉ locales)
        ∧ splitLocale locales components = (none, components) := by
  cases components with
  | nil => exact Or.inr ⟨by rintro _ ⟨⟩, rfl⟩
  | cons first rest =>
    by_cases configured : first ∈ locales
    · refine Or.inl ⟨first, configured, rest, rfl, ?_⟩
      rw [splitLocale, if_pos (List.contains_iff_mem.mpr configured)]
    · refine Or.inr ⟨by simpa using configured, ?_⟩
      rw [splitLocale, if_neg (mt List.contains_iff_mem.mp configured)]

theorem readUrl_eq_ok_iff_captures? {page : ListedPage} {locales : List String} {url : String}
    {entry : Entry} {chosen : Option String} {parts : List String}
    (split : splitLocale locales (components url) = (chosen, parts)) :
    readUrl page locales url = .ok entry
      ↔ captures? page.pathname (joinSlashes parts) = some entry.record
        ∧ entry.locale = chosen := by
  obtain ⟨record, locale⟩ := entry
  simp only [readUrl, split]
  cases captures? page.pathname (joinSlashes parts) <;> simp [eq_comm]

theorem readUrl_eq_ok_iff {page : ListedPage} {params : List SegmentParam} {locales : List String}
    {url : String} {entry : Entry} :
    readUrl page locales url = .ok entry ↔ Accepts page params locales (.text url) entry := by
  have joined : captures? page.pathname (joinSlashes (components url))
      = captures? page.pathname url := by
    rw [captures?, captures?, components_joinSlashes fun _ => isComponent_of_mem_components]
  obtain ⟨record, chosen⟩ := entry
  rcases splitLocale_cases locales (components url) with
    ⟨locale, configured, rest, spelled, split⟩ | ⟨foreign, split⟩
  · rw [readUrl_eq_ok_iff_captures? split]
    constructor
    · rintro ⟨matched, rfl⟩
      exact .localized spelled configured matched
    · intro accepts
      cases accepts with
      | localized spelled' _ matched =>
        cases spelled.symm.trans spelled'
        exact ⟨matched, rfl⟩
      | bare foreign _ => exact absurd configured (foreign locale (by simp [spelled]))
  · rw [readUrl_eq_ok_iff_captures? split, joined]
    constructor
    · rintro ⟨matched, rfl⟩
      exact .bare foreign matched
    · intro accepts
      cases accepts with
      | @localized _ locale _ _ spelled configured _ =>
        exact absurd configured (foreign locale (by simp [spelled]))
      | bare _ matched => exact ⟨matched, rfl⟩

/-- A record binds exactly the parameters of a page, each to a value of its kind. -/
structure Fulfils (params : List SegmentParam) (record : ParamRecord) : Prop where
  names : record.names = params.map (·.name)
  fitting : ∀ param ∈ params, ∃ value, record.lookup? param.name = some value
    ∧ value.Fits param.kind

theorem Records.fulfils {values : Bindings Value} {params : List SegmentParam}
    {record : ParamRecord} (records : Records values params record)
    (distinct : (params.map (·.name)).Nodup) : Fulfils params record := by
  have names : record.names = params.map (·.name) := by
    rw [Bindings.names, ← List.forall₂_eq_eq_eq, List.forall₂_map_left_iff,
      List.forall₂_map_right_iff]
    exact records.flip.imp fun _ _ binds => binds.1
  refine ⟨names, ?_⟩
  intro param member
  obtain ⟨⟨name, value⟩, inRecord, rfl, reading⟩ :=
    exists_mem_of_forall₂ records.flip member
  exact ⟨value, Bindings.lookup?_of_mem (names ▸ distinct) inRecord, reading.fits⟩

theorem fulfils_of_captures? {page : ListedPage} {params : List SegmentParam}
    (declared : page.params = .ok params) {url : String} {record : ParamRecord}
    (matched : captures? page.pathname url = some record) : Fulfils params record := by
  have distinct := ListedPage.nodup_names_params declared
  obtain rfl := ListedPage.params_eq_placeholders declared
  refine ⟨names_of_capture matched distinct, ?_⟩
  intro param member
  obtain ⟨value, found, fits, -⟩ :=
    fills_of_capture matched distinct (fun _ => decoded_ne_empty) param member
  exact ⟨value, found, fits⟩

/-- Whether it is a URL path or a mapping, an entry gives each parameter a value. -/
theorem Accepts.fulfils {page : ListedPage} {params : List SegmentParam} {locales : List String}
    {value : Value} {entry : Entry} (accepts : Accepts page params locales value entry)
    (declared : page.params = .ok params) : Fulfils params entry.record := by
  cases accepts with
  | localized _ _ matched => exact fulfils_of_captures? declared matched
  | bare _ matched => exact fulfils_of_captures? declared matched
  | mapping _ _ _ records => exact records.fulfils (ListedPage.nodup_names_params declared)

/-! ### URL paths -/

theorem Accepts.locale_mem {page : ListedPage} {params : List SegmentParam} {locales : List String}
    {value : Value} {entry : Entry} (accepts : Accepts page params locales value entry)
    {locale : String} (named : entry.locale = some locale) : locale ∈ locales := by
  cases accepts with
  | localized _ configured _ =>
    cases named
    exact configured
  | bare _ _ => cases named
  | mapping _ _ names _ =>
    cases named
    exact names.mem

/-- Where locales are configured, one of them stands in front of every URL path. -/
theorem exists_localeText (config : ResolverConfig) {named : Option String}
    (known : ∀ locale, named = some locale → locale ∈ config.locales.all)
    (configured : config.locales.all ≠ []) :
    ∃ locale ∈ config.locales.all, named.or config.locales.default = some locale
      ∧ localeText named config.locales.default = locale := by
  cases named with
  | none =>
    obtain ⟨locale, standard⟩ := Option.isSome_iff_exists.mp (config.default_isSome configured)
    refine ⟨locale, config.default_mem locale standard, standard, ?_⟩
    rw [localeText, standard, Option.getD_some]
  | some locale =>
    have member := known locale rfl
    refine ⟨locale, member, rfl, ?_⟩
    rw [localeText, if_neg (by simpa using config.locale_ne_empty locale member)]

/-- Of the entries that lead to one URL path the first one stays. -/
theorem map_snd_distinctFrom (seen : List String) (paths : List (ParamRecord × String)) :
    (distinctFrom seen paths).map (·.2)
      = ((paths.map (·.2)).filter fun pathname => !seen.contains pathname).eraseDups := by
  induction paths generalizing seen with
  | nil => rfl
  | cons path rest ih =>
    obtain ⟨record, pathname⟩ := path
    rw [distinctFrom, List.map_cons]
    cases repeated : seen.contains pathname with
    | true => rw [if_pos rfl, ih, List.filter_cons_of_neg (by simpa using repeated)]
    | false =>
      rw [if_neg Bool.false_ne_true, List.map_cons, ih,
        List.filter_cons_of_pos (by simpa using repeated), List.eraseDups_cons, List.filter_filter]
      congr 3
      funext later
      rw [List.contains_cons, Bool.not_or]

theorem distinctFrom_sublist (seen : List String) (paths : List (ParamRecord × String)) :
    (distinctFrom seen paths).Sublist paths := by
  induction paths generalizing seen with
  | nil => exact .slnil
  | cons path rest ih =>
    rw [distinctFrom]
    split
    · exact (ih seen).cons path
    · exact (ih _).cons_cons path

theorem nodup_map_snd_distinctFrom (seen : List String) (paths : List (ParamRecord × String)) :
    ((distinctFrom seen paths).map (·.2)).Nodup := by
  induction paths generalizing seen with
  | nil => exact .nil
  | cons path rest ih =>
    obtain ⟨record, pathname⟩ := path
    rw [distinctFrom]
    split
    · exact ih seen
    · rw [List.map_cons, List.nodup_cons]
      refine ⟨?_, ih _⟩
      rw [map_snd_distinctFrom, List.mem_eraseDups, List.mem_filter]
      simp

end PagePaths

/-- The standard settings for a site with some locales, the first of them its default one. -/
def ResolverConfig.forLocales (first : String) (others : List String)
    (filled : ∀ locale ∈ first :: others, locale ≠ "") : ResolverConfig :=
  { ResolverConfig.default with
    locales := ⟨first :: others, some first⟩
    locale_ne_empty := filled
    default_mem := by
      rintro _ ⟨⟩
      exact List.mem_cons_self
    default_isSome := fun _ => rfl }

end Prerender
