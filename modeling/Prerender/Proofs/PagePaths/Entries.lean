import Prerender.PagePaths
import Prerender.Proofs.Except
import Prerender.Proofs.Pathname.Filling

/-!
# Reading what a page lists

The parameters of a listed page are those of its pathname, where that can be read and they differ
(`params_eq_ok_iff`). Every entry that is read binds them, so that its URL path can be filled in
(`entryPathname_isOk`).
-/

namespace Prerender

/-! ### Parameters of a page -/

namespace ListedPage

/-- Parameters are read off components that can be read, and only added to those of other names. -/
theorem paramsFrom_eq_ok_iff {pathname : String} {seen params : List SegmentParam}
    {components : List String} (distinct : (seen.map (·.name)).Nodup) :
    paramsFrom pathname seen components = .ok params
      ↔ (∀ component ∈ components, SegmentParam.Readable component)
        ∧ params = seen ++ components.filterMap SegmentParam.parse?
        ∧ (params.map (·.name)).Nodup := by
  induction components generalizing seen with
  | nil =>
    rw [paramsFrom, List.filterMap_nil, List.append_nil, Except.ok.injEq]
    constructor
    · rintro rfl
      exact ⟨fun _ member => absurd member List.not_mem_nil, rfl, distinct⟩
    · rintro ⟨-, rfl, -⟩
      rfl
  | cons component rest ih =>
    rw [paramsFrom, List.forall_mem_cons]
    split
    · next bracketed =>
      cases parsed : SegmentParam.parse? component with
      | none => simp [SegmentParam.Readable, bracketed, parsed]
      | some param =>
        have readable : SegmentParam.Readable component := fun _ => ⟨param, parsed⟩
        simp only [readable, true_and]
        rw [List.filterMap_cons_some parsed]
        split
        · next known =>
          obtain ⟨earlier, inSeen, same⟩ := List.any_eq_true.mp known
          refine iff_of_false (by rintro ⟨⟩) ?_
          rintro ⟨-, rfl, nodup⟩
          rw [List.map_append, List.map_cons] at nodup
          exact (List.nodup_append.mp nodup).2.2 _ (List.mem_map_of_mem inSeen) _
            List.mem_cons_self (of_decide_eq_true same)
        · next new =>
          have longer : ((seen ++ [param]).map (·.name)).Nodup := by
            rw [List.map_append, List.map_singleton, List.nodup_append]
            refine ⟨distinct, by simp, ?_⟩
            rintro _ member _ only rfl
            rw [List.mem_singleton] at only
            obtain ⟨earlier, inSeen, same⟩ := List.mem_map.mp member
            exact new (List.any_eq_true.mpr ⟨earlier, inSeen, decide_eq_true (same.trans only)⟩)
          rw [ih longer, List.append_assoc, List.singleton_append]
    · next literal =>
      have readable : SegmentParam.Readable component := fun bracketed => absurd bracketed literal
      simp only [readable, true_and]
      rw [ih distinct, List.filterMap_cons_none (SegmentParam.parse?_eq_none literal)]

/-- A page has parameters if the pieces of its pathname can be read and declare different ones. They
are those of its pathname, in order. -/
theorem params_eq_ok_iff {page : ListedPage} {params : List SegmentParam} :
    page.params = .ok params
      ↔ (∀ piece ∈ Pathname.pieces page.pathname, SegmentParam.Readable piece)
        ∧ params = Pathname.placeholders (Pathname.pattern page.pathname)
        ∧ (params.map (·.name)).Nodup := by
  have empty : (([] : List SegmentParam).map (·.name)).Nodup := List.nodup_nil
  rw [ListedPage.params, paramsOf, paramsFrom_eq_ok_iff empty, List.nil_append,
    Pathname.placeholders_pattern]

theorem params_eq_placeholders {page : ListedPage} {params : List SegmentParam}
    (declared : page.params = .ok params) :
    params = Pathname.placeholders (Pathname.pattern page.pathname) :=
  (params_eq_ok_iff.mp declared).2.1

theorem nodup_names_params {page : ListedPage} {params : List SegmentParam}
    (declared : page.params = .ok params) : (params.map (·.name)).Nodup :=
  (params_eq_ok_iff.mp declared).2.2

end ListedPage

namespace PagePaths

/-! ### Entries that are read -/

/-- A URL path that is read is matched against the pathname. -/
theorem exists_captures?_of_readUrl {page : ListedPage} {locales : List String} {url : String}
    {entry : Entry} (read : readUrl page locales url = .ok entry) :
    ∃ path, Pathname.captures? page.pathname path = some entry.record := by
  rw [readUrl] at read
  simp only at read
  split at read
  · next record matched =>
    cases read
    exact ⟨_, matched⟩
  · cases read

/-- A mapping is read if it has no keys that are not expected, names a locale that there is or none,
and has values for the parameters of the page. -/
theorem readMapping_eq_ok_iff {page : ListedPage} {params : List SegmentParam}
    {locales : List String} {value : Value} {entries : Entries} {entry : Entry} :
    readMapping page params locales value entries = .ok entry
      ↔ otherKeys ["params", "locale"] entries = []
        ∧ ∃ reading, (entries.named.lookup? "params").bind Value.asMapping? = some reading
          ∧ readLocale page locales (entries.named.lookup? "locale") = .ok entry.locale
          ∧ readParams page reading [] params = .ok entry.record := by
  unfold readMapping
  cases others : otherKeys ["params", "locale"] entries with
  | cons key keys =>
    refine iff_of_false ?_ (by rintro ⟨⟨⟩, -⟩)
    simp only [refuseKeys]
    split <;> rintro ⟨⟩
  | nil =>
    simp only [true_and]
    cases (entries.named.lookup? "params").bind Value.asMapping? with
    | none => simp
    | some reading =>
      obtain ⟨record, locale⟩ := entry
      simp only [Option.some.injEq, exists_eq_left', Except.bind_eq_ok_iff, pure, Except.pure,
        Except.ok.injEq, Entry.mk.injEq]
      constructor
      · rintro ⟨_, isLocale, _, bound, rfl, rfl⟩
        exact ⟨isLocale, bound⟩
      · rintro ⟨isLocale, bound⟩
        exact ⟨_, isLocale, _, bound, rfl, rfl⟩

/-- An entry that is read is a URL path, or a mapping that can be read. -/
theorem readEntry_eq_ok_iff {page : ListedPage} {params : List SegmentParam}
    {locales : List String} {value : Value} {entry : Entry} :
    readEntry page params locales value = .ok entry
      ↔ (∃ url, value = .text url ∧ readUrl page locales url = .ok entry)
        ∨ ∃ entries, value.asMapping? = some (.ok entries)
          ∧ readMapping page params locales value entries = .ok entry := by
  unfold readEntry
  split
  · next url => simp [Value.asMapping?, Except.mapError_eq_ok_iff]
  · next notText =>
    have noUrl : ¬∃ url, value = .text url ∧ readUrl page locales url = .ok entry :=
      fun ⟨url, same, _⟩ => notText url same
    rw [or_iff_right noUrl]
    cases value.asMapping? with
    | none => simp
    | some reading =>
      simp only [Option.some.injEq, Except.bind_eq_ok_iff]

/-- Entries are read one by one, each with its URL path. -/
theorem readEntries_cons_eq_ok_iff {page : ListedPage} {params : List SegmentParam}
    {locales : Locales} {value : Value} {rest : List Value} {paths : List (ParamRecord × String)} :
    readEntries page params locales (value :: rest) = .ok paths
      ↔ ∃ entry url behind, readEntry page params locales.all value = .ok entry
          ∧ entryPathname page locales entry = .ok url
          ∧ readEntries page params locales rest = .ok behind
          ∧ paths = (entry.record, url) :: behind := by
  simp only [readEntries, Except.bind_eq_ok_iff, Except.mapError_eq_ok_iff, pure, Except.pure,
    Except.ok.injEq, exists_and_left, @eq_comm _ paths]

end PagePaths

end Prerender
