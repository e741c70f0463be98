import Prerender.Proofs.PagePaths.Listed

/-!
# Entries restated as URL paths

An entry of a listing that is a mapping may as well be the URL path that its values are filled in
to, behind its locale (`Restated`): both are read as the same entry (`Restated.readEntry_eq`), so
that the page lists the same, whichever of its entries are restated (`staticPaths_restated`).
Without a locale, the URL path must not start with one.
-/

namespace Prerender

open Pathname

/-! ### Pages -/

namespace ListedPage

/-- A page with other exports of its module. -/
def withExports (page : ListedPage) (exports : Value) : ListedPage :=
  { page with module := { page.module with exports } }

end ListedPage

namespace PagePaths

/-! ### Other exports -/

section

variable (page : ListedPage) (exports : Value) (params : List SegmentParam)

theorem readParams_withExports (reading : Except Raised Entries) (record : ParamRecord) :
    readParams (page.withExports exports) reading record params
      = readParams page reading record params := by
  induction params generalizing record with
  | nil => rfl
  | cons param rest ih =>
    simp only [readParams, ih]
    rfl

theorem readEntry_withExports (locales : List String) (value : Value) :
    readEntry (page.withExports exports) params locales value
      = readEntry page params locales value := by
  cases value with
  | text url => rfl
  | _ =>
    simp only [readEntry, readMapping, readParams_withExports]
    rfl

/-- Of a listing, only what its entries are read as matters. -/
theorem readEntries_withExports {locales : Locales} {values others : List Value}
    (same : List.Forall₂
      (fun value other =>
        readEntry page params locales.all other = readEntry page params locales.all value)
      values others) :
    readEntries (page.withExports exports) params locales others
      = readEntries page params locales values := by
  induction same with
  | nil => rfl
  | cons here _ ih =>
    rw [readEntries, readEntries, readEntry_withExports, here, ih]
    rfl

end

/-! ### Entries -/

/-- An entry that is a mapping gives the parameters of a pathname values of their kinds, of texts
that are not empty. They are filled in to a URL path. -/
structure Gives (pathname : String) (entries : Entries) (path : String) : Prop where
  expected : otherKeys ["params", "locale"] entries = []
  values : ∃ values record, (Entries.named entries).lookup? "params" = some (.mapping values)
    ∧ ReadAs (Entries.named values) record (placeholders (pattern pathname))
    ∧ Fills record (pattern pathname)
    ∧ interpolateUnchecked pathname (Entries.named values) = .ok path

/-- Entries of a listing and what they can be restated as, for the locales of a site. -/
inductive Restated (pathname : String) (locales : List String) : Value → Value → Prop where
  | kept (value : Value) : Restated pathname locales value value
  /-- A mapping with a locale. -/
  | localized {entries : Entries} {path locale : String} (gives : Gives pathname entries path)
      (names : (Entries.named entries).lookup? "locale" = some (.text locale))
      (configured : locale ∈ locales) :
      Restated pathname locales (.mapping entries)
        (.text (if path = "/" then "/" ++ locale else "/" ++ locale ++ path))
  /-- A mapping without a locale, and a URL path that does not start with one. -/
  | bare {entries : Entries} {path : String} (gives : Gives pathname entries path)
      (silent : (Entries.named entries).lookup? "locale" = none)
      (foreign : ∀ first ∈ (components path).head?, first ∉ locales) :
      Restated pathname locales (.mapping entries) (.text path)

/-- A locale in front of a URL path is the component in front of its components. -/
theorem components_localized {locale : String} {parts : List String} (valid : IsComponent locale)
    (validParts : ∀ part ∈ parts, IsComponent part) :
    components (if joinSlashes parts = "/" then "/" ++ locale
        else "/" ++ locale ++ joinSlashes parts)
      = locale :: parts := by
  have joined : (if joinSlashes parts = "/" then "/" ++ locale
      else "/" ++ locale ++ joinSlashes parts) = joinSlashes (locale :: parts) := by
    cases parts with
    | nil => simp [joinSlashes]
    | cons part rest =>
      -- Only a URL path without components is a lone slash.
      have long : joinSlashes (part :: rest) ≠ "/" := by
        intro short
        have back := components_joinSlashes validParts
        have none : components "/" = [] := rfl
        rw [short, none] at back
        cases back
      rw [if_neg long]
      simp [joinSlashes]
  rw [joined, components_joinSlashes (List.forall_mem_cons.mpr ⟨valid, validParts⟩)]

section

variable {page : ListedPage} {params : List SegmentParam} {locales : List String}

theorem readUrl_eq_ok {url : String} {chosen : Option String} {parts : List String}
    {record : ParamRecord} (split : splitLocale locales (components url) = (chosen, parts))
    (matched : captures? page.pathname (joinSlashes parts) = some record) :
    readUrl page locales url = .ok ⟨record, chosen⟩ := by
  simp only [readUrl, split, matched]

/-- A mapping that gives values is read as the record that its URL path is read back as. -/
theorem Gives.exists_record {entries : Entries} {path : String}
    (gives : Gives page.pathname entries path) (declared : page.params = .ok params)
    (one : (params.filter (·.isCatchAll)).length ≤ 1)
    (literals : ∀ text, .literal text ∈ pattern page.pathname → decodeComponent text = text)
    {chosen : Option String}
    (readable : readLocale page locales ((Entries.named entries).lookup? "locale") = .ok chosen) :
    ∃ record parts,
      readEntry page params locales (.mapping entries) = .ok ⟨record, chosen⟩
      ∧ captures? page.pathname path = some record
      ∧ path = joinSlashes parts ∧ ∀ part ∈ parts, IsComponent part := by
  obtain ⟨values, record, stands, readAs, fills, written⟩ := gives.values
  have distinct := ListedPage.nodup_names_params declared
  obtain rfl := ListedPage.params_eq_placeholders declared
  rw [readAs.interpolateUnchecked_eq] at written
  obtain rfl := Except.ok.inj written
  -- Both ways lead to the record cut down to the parameters of the page.
  have read : readParams page (.ok values) [] (placeholders (pattern page.pathname))
      = .ok (record.restrictTo ((placeholders (pattern page.pathname)).map (·.name))) :=
    readAs.readParams_eq page distinct
  refine ⟨_, _, ?_, captures?_fillIn distinct one literals fills, rfl,
    fun _ => isComponent_of_mem_encoded fills⟩
  refine readEntry_eq_ok_iff.mpr (Or.inr ⟨entries, rfl, ?_⟩)
  refine readMapping_eq_ok_iff.mpr ⟨gives.expected, .ok values, ?_, readable, read⟩
  rw [stands]
  rfl

/-- A restated entry is read as the same. -/
theorem Restated.readEntry_eq {value other : Value}
    (restated : Restated page.pathname locales value other) (declared : page.params = .ok params)
    (one : (params.filter (·.isCatchAll)).length ≤ 1)
    (literals : ∀ text, .literal text ∈ pattern page.pathname → decodeComponent text = text)
    (valid : ∀ locale ∈ locales, IsComponent locale) :
    readEntry page params locales other = readEntry page params locales value := by
  cases restated with
  | kept => rfl
  | @localized entries path locale gives names configured =>
    have readable : readLocale page locales ((Entries.named entries).lookup? "locale")
        = .ok (some locale) := by
      rw [names, readLocale, if_pos (List.contains_iff_mem.mpr configured)]
    obtain ⟨record, parts, read, matched, rfl, validParts⟩ :=
      gives.exists_record declared one literals readable
    have split := components_localized (valid locale configured) validParts
    rw [read, readEntry, readUrl_eq_ok ?_ matched]
    · rfl
    · rw [split, splitLocale, if_pos (List.contains_iff_mem.mpr configured)]
  | @bare entries path gives silent foreign =>
    have readable : readLocale page locales ((Entries.named entries).lookup? "locale")
        = .ok none := by
      rw [silent, readLocale]
    obtain ⟨record, parts, read, matched, rfl, validParts⟩ :=
      gives.exists_record declared one literals readable
    rw [components_joinSlashes validParts] at foreign
    rw [read, readEntry, readUrl_eq_ok ?_ matched]
    · rfl
    · rw [components_joinSlashes validParts]
      cases parts with
      | nil => rfl
      | cons first rest =>
        have other : ¬locales.contains first = true := by
          rw [List.contains_iff_mem]
          exact foreign first rfl
        rw [splitLocale, if_neg other]

end

end PagePaths

open PagePaths in
/-- Entries that are mappings may be restated as the URL paths that their values are filled in to,
behind the locales that they name: whichever of them are, the page lists the same. -/
theorem ListedPage.staticPaths_restated (config : ResolverConfig) (page : ListedPage)
    (exports : Value) (params : List SegmentParam) (calls callsRestated : List Call)
    (listing restated : Listing)
    (whole : ∀ locale ∈ config.locales.all, '/' ∉ locale.toList)
    (declared : page.params = .ok params)
    (one : (params.filter (·.isCatchAll)).length ≤ 1)
    (literals : ∀ text, .literal text ∈ pattern page.pathname → decodeComponent text = text)
    (lists : page.Lists config.locales calls listing)
    (listsRestated : (page.withExports exports).Lists config.locales callsRestated restated)
    (fallback : restated.fallback = listing.fallback)
    (entries : List.Forall₂ (Restated page.pathname config.locales.all)
      listing.entries restated.entries) :
    ((page.withExports exports).staticPaths config.locales callsRestated).1
      = (page.staticPaths config.locales calls).1 := by
  have valid : ∀ locale ∈ config.locales.all, IsComponent locale := fun locale member =>
    ⟨config.locale_ne_empty locale member, whole locale member⟩
  have declaredRestated : (page.withExports exports).params = .ok params := declared
  by_cases dynamic : params = []
  · subst dynamic
    simp only [ListedPage.staticPaths, declared, declaredRestated]
  · rw [lists.staticPaths_eq declared dynamic,
      listsRestated.staticPaths_eq declaredRestated dynamic, fallback,
      readEntries_withExports page exports params
        (entries.imp fun _ _ restated => restated.readEntry_eq declared one literals valid)]

open PagePaths in
theorem ListedPage.staticPaths_restated_root :
    let exports (entries : List Value) : Value :=
      .mapping [(.text "get_static_paths", .function "paths" fun _ _ => .ok (.mapping
        [(.text "paths", .list entries), (.text "fallback", .bool false)]))]
    let root : Entries :=
      [(.text "params", .mapping [(.text "rest", .none)]), (.text "locale", .text "fr")]
    let nested : Entries := [(.text "params", .mapping [(.text "rest", .list [.text "a/b"])])]
    let page : ListedPage := ⟨"/[[...rest]]", "/[[...rest]]",
      ⟨none, exports [.mapping root, .mapping nested, .text "/fr"]⟩⟩
    let restated := page.withExports (exports [.text "/fr", .text "/a%2Fb", .text "/fr"])
    let locales : Locales := ⟨["en", "fr"], some "en"⟩
    (restated.staticPaths locales []).1 = (page.staticPaths locales []).1
      ∧ (page.staticPaths locales []).1
        = .ok
            { paths := [[("rest", .absent)], [("rest", .parts ["a/b"])]], revalidate := .never
              pathnames := ["/fr", "/en/a%2Fb"] } := by
  intro exports root nested page restated locales
  refine ⟨?_, by decide +kernel⟩
  have read : pattern page.pathname = [.placeholder ⟨"rest", .optionalCatchAll⟩] := by
    decide +kernel
  have givesRoot : Gives page.pathname root "/" := by
    refine ⟨by decide +kernel, _, [("rest", .absent)], rfl, ?_, by decide +kernel,
      by decide +kernel⟩
    rw [read]
    exact List.forall_mem_singleton.mpr ⟨_, _, rfl, rfl, .nothing⟩
  have givesNested : Gives page.pathname nested "/a%2Fb" := by
    refine ⟨by decide +kernel, _, [("rest", .parts ["a/b"])], rfl, ?_, by decide +kernel,
      by decide +kernel⟩
    rw [read]
    exact List.forall_mem_singleton.mpr ⟨_, _, rfl, rfl, .parts (by decide) rfl⟩
  let config := ResolverConfig.forLocales "en" ["fr"] (by decide)
  exact ListedPage.staticPaths_restated config page _ [⟨"rest", .optionalCatchAll⟩] [] []
    ⟨[.mapping root, .mapping nested, .text "/fr"], .notFound⟩
    ⟨[.text "/fr", .text "/a%2Fb", .text "/fr"], .notFound⟩
    (by decide) (by decide +kernel) (by decide) (by decide +kernel)
    ⟨_, _, rfl, rfl, rfl⟩ ⟨_, _, rfl, rfl, rfl⟩ rfl
    (.cons (.localized givesRoot rfl (by decide))
      (.cons (.bare givesNested rfl (by decide +kernel)) (.cons (.kept _) .nil)))

end Prerender
