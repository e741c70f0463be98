import Prerender.Proofs.PagePaths.Restated

/-!
# Listing the URL paths that were listed

A URL path that a page makes of an entry is read as the same record again, and gives itself
(`settled_of_readUrl`): behind its locale stands what the record was filled in to, however the URL
path of the entry was written and whether it named a locale or not. So a page that lists URL paths
lists the same if these are what its path function gives (`staticPaths_relisted`).
-/

namespace Prerender

open Pathname

namespace PagePaths

variable {page : ListedPage} {params : List SegmentParam} {config : ResolverConfig}

/-! ### One URL path -/

/-- The locale in front of a URL path is split off again, and put in front again it gives the same.
Without locales there is none. -/
theorem exists_splitLocale_localize (whole : ∀ locale ∈ config.locales.all, '/' ∉ locale.toList)
    {named : Option String} (known : ∀ locale, named = some locale → locale ∈ config.locales.all)
    {parts : List String} (valid : ∀ part ∈ parts, IsComponent part) :
    ∃ chosen,
      splitLocale config.locales.all
          (components (localize config.locales named (joinSlashes parts))) = (chosen, parts)
        ∧ localize config.locales chosen (joinSlashes parts)
          = localize config.locales named (joinSlashes parts) := by
  by_cases unlocalized : config.locales.all = []
  · have plain : ∀ chosen, localize config.locales chosen (joinSlashes parts)
        = joinSlashes parts := by
      intro chosen
      rw [localize, if_pos (List.isEmpty_iff.mpr unlocalized)]
    refine ⟨none, ?_, by rw [plain, plain]⟩
    rw [plain, components_joinSlashes valid, unlocalized]
    cases parts <;> rfl
  · obtain ⟨locale, configured, -, text⟩ := exists_localeText config known unlocalized
    have textAgain : localeText (some locale) config.locales.default = locale := by
      rw [localeText, if_neg (by simpa using config.locale_ne_empty locale configured)]
    have behind : ∀ {chosen}, localeText chosen config.locales.default = locale →
        localize config.locales chosen (joinSlashes parts)
          = if joinSlashes parts = "/" then "/" ++ locale
            else "/" ++ locale ++ joinSlashes parts := by
      rintro chosen rfl
      rw [localize, if_neg (mt List.isEmpty_iff.mp unlocalized)]
    have component : IsComponent locale :=
      ⟨config.locale_ne_empty locale configured, whole locale configured⟩
    refine ⟨some locale, ?_, by rw [behind text, behind textAgain]⟩
    rw [behind text, components_localized component valid, splitLocale,
      if_pos (List.contains_iff_mem.mpr configured)]

/-- The URL path of a record is read as that record, and leads to itself. -/
def Settled (page : ListedPage) (locales : Locales) (path : ParamRecord × String) : Prop :=
  ∃ chosen, readUrl page locales.all path.2 = .ok ⟨path.1, chosen⟩
    ∧ entryPathname page locales ⟨path.1, chosen⟩ = .ok path.2

/-- What was read off a URL path is settled once it is written down again. -/
theorem settled_of_readUrl (declared : page.params = .ok params)
    (literals : ∀ text, .literal text ∈ pattern page.pathname → decodeComponent text = text)
    (whole : ∀ locale ∈ config.locales.all, '/' ∉ locale.toList) {url pathname : String}
    {entry : Entry} (read : readUrl page config.locales.all url = .ok entry)
    (led : entryPathname page config.locales entry = .ok pathname) :
    Settled page config.locales (entry.record, pathname) := by
  have accepts : Accepts page params config.locales.all (.text url) entry :=
    readUrl_eq_ok_iff.mp read
  have distinct := ListedPage.nodup_names_params declared
  rw [ListedPage.params_eq_placeholders declared] at distinct
  obtain ⟨path, matched⟩ := exists_captures?_of_readUrl read
  obtain ⟨-, fills, canonical, filled, -, again⟩ :=
    captures?_canonical _ _ _ distinct literals matched
  -- The record is filled in to components, whatever stood in the URL path that was read.
  obtain ⟨parts, valid, rfl⟩ : ∃ parts, (∀ part ∈ parts, IsComponent part)
      ∧ canonical = joinSlashes parts := by
    rw [interpolate_eq_fillIn fills.suits] at filled
    exact ⟨_, fun _ => isComponent_of_mem_encoded fills, (Except.ok.inj filled).symm⟩
  obtain ⟨chosen, split, same⟩ :=
    exists_splitLocale_localize whole (fun _ named => accepts.locale_mem named) valid
  rw [entryPathname, filled] at led
  obtain rfl := Except.ok.inj led
  refine ⟨chosen, readUrl_eq_ok split again, ?_⟩
  rw [entryPathname, filled]
  exact congrArg Except.ok same

/-! ### Listings -/

/-- All that is read off URL paths is settled. -/
theorem settled_of_readEntries (declared : page.params = .ok params)
    (literals : ∀ text, .literal text ∈ pattern page.pathname → decodeComponent text = text)
    (whole : ∀ locale ∈ config.locales.all, '/' ∉ locale.toList) {urls : List String}
    {paths : List (ParamRecord × String)}
    (read : readEntries page params config.locales (urls.map .text) = .ok paths) :
    ∀ path ∈ paths, Settled page config.locales path := by
  induction urls generalizing paths with
  | nil =>
    cases read
    exact fun _ member => absurd member List.not_mem_nil
  | cons url rest ih =>
    obtain ⟨entry, pathname, behind, here, led, there, rfl⟩ := readEntries_cons_eq_ok_iff.mp read
    refine List.forall_mem_cons.mpr ⟨?_, ih there⟩
    exact settled_of_readUrl declared literals whole (Except.mapError_eq_ok_iff.mp here) led

/-- Settled paths are read off their URL paths as they are. -/
theorem readEntries_of_settled {locales : Locales} {paths : List (ParamRecord × String)}
    (settled : ∀ path ∈ paths, Settled page locales path) :
    readEntries page params locales (paths.map fun path => .text path.2) = .ok paths := by
  induction paths with
  | nil => rfl
  | cons path rest ih =>
    obtain ⟨⟨chosen, read, led⟩, behind⟩ := List.forall_mem_cons.mp settled
    exact readEntries_cons_eq_ok_iff.mpr
      ⟨⟨path.1, chosen⟩, path.2, rest, Except.mapError_eq_ok_iff.mpr read, led, ih behind, rfl⟩

/-- Nothing is left out of paths whose URL paths differ. -/
theorem distinctFrom_eq_self {seen : List String} {paths : List (ParamRecord × String)}
    (distinct : (paths.map (·.2)).Nodup) (unseen : ∀ path ∈ paths, path.2 ∉ seen) :
    distinctFrom seen paths = paths := by
  induction paths generalizing seen with
  | nil => rfl
  | cons path rest ih =>
    obtain ⟨record, pathname⟩ := path
    rw [List.map_cons, List.nodup_cons] at distinct
    obtain ⟨new, unseen⟩ := List.forall_mem_cons.mp unseen
    rw [distinctFrom, if_neg (mt List.contains_iff_mem.mp new), ih distinct.2]
    intro later member
    rw [List.mem_cons, not_or]
    refine ⟨?_, unseen later member⟩
    rintro rfl
    exact distinct.1 (List.mem_map.mpr ⟨later, member, rfl⟩)

end PagePaths

open PagePaths in
/-- A page whose path function gives URL paths, with any number of catch-alls: if the path function
gives what the page made of them, with the same fallback, the page lists the same records under the
same URL paths again. -/
theorem ListedPage.staticPaths_relisted (config : ResolverConfig) (page : ListedPage)
    (exports : Value) (calls callsAgain : List Call) (listing relisting : Listing)
    (urls : List String) (result : StaticPaths Revalidate)
    (whole : ∀ locale ∈ config.locales.all, '/' ∉ locale.toList)
    (literals : ∀ text, .literal text ∈ pattern page.pathname → decodeComponent text = text)
    (lists : page.Lists config.locales calls listing)
    (entries : listing.entries = urls.map .text)
    (ok : (page.staticPaths config.locales calls).1 = .ok result)
    (relists : (page.withExports exports).Lists config.locales callsAgain relisting)
    (given : relisting.entries = result.pathnames.map .text)
    (fallback : relisting.fallback = listing.fallback) :
    ((page.withExports exports).staticPaths config.locales callsAgain).1 = .ok result := by
  cases declared : page.params with
  | error failure =>
    simp only [ListedPage.staticPaths, declared] at ok
    cases ok
  | ok params =>
    have declaredAgain : (page.withExports exports).params = .ok params := declared
    by_cases dynamic : params = []
    · subst dynamic
      simp only [ListedPage.staticPaths, declared] at ok
      simp only [ListedPage.staticPaths, declaredAgain, ok]
    · rw [lists.staticPaths_eq declared dynamic, entries] at ok
      obtain ⟨paths, read, rfl⟩ := Except.map_eq_ok_iff.mp ok
      rw [Except.mapError_eq_ok_iff] at read
      -- Of the paths that were read those that stay are settled, so they are read once more.
      have settled : ∀ path ∈ distinctFrom [] paths, Settled page config.locales path :=
        fun path member => settled_of_readEntries declared literals whole read path
          ((distinctFrom_sublist [] paths).mem member)
      have again : readEntries (page.withExports exports) params config.locales relisting.entries
          = .ok (distinctFrom [] paths) := by
        rw [readEntries_withExports page exports params (List.forall₂_same.mpr fun _ _ => rfl),
          given, List.map_map]
        exact readEntries_of_settled settled
      have kept : distinctFrom [] (distinctFrom [] paths) = distinctFrom [] paths :=
        distinctFrom_eq_self (nodup_map_snd_distinctFrom [] paths) fun _ _ => List.not_mem_nil
      rw [relists.staticPaths_eq declaredAgain dynamic, again, fallback]
      simp only [Except.mapError, Except.map, kept]

open PagePaths in
theorem ListedPage.staticPaths_relisted_locales :
    let exports (urls : List String) : Value :=
      .mapping [(.text "get_static_paths", .function "paths" fun _ _ => .ok (.mapping
        [(.text "paths", .list (urls.map .text)), (.text "fallback", .text "blocking")]))]
    let page : ListedPage := ⟨"/[[...rest]]", "/[[...rest]]",
      ⟨none, exports ["//fr//a%2fb/%zz/", "/fr/a%2Fb/%25zz", "/", "/b", "/en/", "/fr/en"]⟩⟩
    let locales : Locales := ⟨["en", "fr"], some "en"⟩
    ∃ result, (page.staticPaths locales []).1 = .ok result
      ∧ result.pathnames = ["/fr/a%2Fb/%25zz", "/en", "/en/b", "/fr/en"]
      ∧ result.fallback = .blocking
      ∧ ((page.withExports (exports result.pathnames)).staticPaths locales []).1 = .ok result := by
  intro exports page locales
  let config := ResolverConfig.forLocales "en" ["fr"] (by decide)
  have ran : (page.staticPaths locales []).1
      = .ok
          { paths :=
              [[("rest", .parts ["a/b", "%zz"])], [("rest", .absent)], [("rest", .parts ["b"])],
                [("rest", .parts ["en"])]]
            fallback := .blocking, revalidate := .never
            pathnames := ["/fr/a%2Fb/%25zz", "/en", "/en/b", "/fr/en"] } := by
    decide +kernel
  exact ⟨_, ran, rfl, rfl,
    ListedPage.staticPaths_relisted config page _ [] [] ⟨_, .blocking⟩ ⟨_, .blocking⟩ _ _
      (by decide) (by decide +kernel) ⟨_, _, rfl, rfl, rfl⟩ rfl ran ⟨_, _, rfl, rfl, rfl⟩ rfl rfl⟩

end Prerender
