import Prerender.Proofs.Pathname.RoundTrip

/-!
# URL paths that were filled in

Values that suit a pathname with at most one catch-all can be told from its URL path
(`fillIn_eq_iff`), but for one pair: where the pathname is an optional catch-all alone, nothing and
a single empty text both give a lone slash. From texts that are not empty, the values are read back
(`captures?_fillIn`).
-/

namespace Prerender

namespace Pathname

/-- The URL path of a pathname under values that suit it. -/
def fillIn (pathname : String) (params : ParamRecord) : String :=
  joinSlashes ((pattern pathname).flatMap (Component.encoded params))

theorem interpolate_eq_fillIn {pathname : String} {params : ParamRecord}
    (suits : Suits params (pattern pathname)) :
    interpolate pathname params = .ok (fillIn pathname params) := by
  rw [interpolate, fillAll_eq_encoded suits.bound]
  rfl

/-- The components of a URL path spell, decoded, what those of the pathname do. -/
theorem map_decodeComponent_fillIn {pathname : String} {params : ParamRecord}
    (literals : ∀ text, .literal text ∈ pattern pathname → decodeComponent text = text)
    (fills : Fills params (pattern pathname)) :
    (components (fillIn pathname params)).map decodeComponent
      = (pattern pathname).flatMap (Component.spelled params) := by
  rw [fillIn, components_joinSlashes fun _ => isComponent_of_mem_encoded fills,
    map_decodeComponent_encoded literals]

/-- Values of texts that are not empty are read back, in the order of the parameters. -/
theorem captures?_fillIn {pathname : String} {params : ParamRecord}
    (distinct : ((placeholders (pattern pathname)).map (·.name)).Nodup)
    (one : ((placeholders (pattern pathname)).filter (·.isCatchAll)).length ≤ 1)
    (literals : ∀ text, .literal text ∈ pattern pathname → decodeComponent text = text)
    (fills : Fills params (pattern pathname)) :
    captures? pathname (fillIn pathname params)
      = some (params.restrictTo ((placeholders (pattern pathname)).map (·.name))) := by
  rw [captures?, map_decodeComponent_fillIn literals fills]
  exact capture_spelled_of_suits fills.suits one distinct

/-! ### Telling values apart -/

/-- Values that agree on the parameters of a pathname are filled in alike. -/
theorem encoded_congr {a b : ParamRecord} {components : List Component}
    (same : ∀ param ∈ placeholders components, a.lookup? param.name = b.lookup? param.name) :
    components.flatMap (Component.encoded a) = components.flatMap (Component.encoded b) := by
  apply List.flatMap_congr
  intro component member
  cases component with
  | literal text => rfl
  | placeholder param =>
    rw [Component.encoded, Component.encoded,
      same param (List.mem_filterMap.mpr ⟨_, member, rfl⟩)]

/-- Where there is at most one catch-all, the texts that are spelled determine the values. -/
theorem lookup?_eq_of_spelled_eq {a b : ParamRecord} {components : List Component}
    (suitsA : Suits a components) (suitsB : Suits b components)
    (one : ((placeholders components).filter (·.isCatchAll)).length ≤ 1)
    (distinct : ((placeholders components).map (·.name)).Nodup)
    (spelled : components.flatMap (Component.spelled a)
      = components.flatMap (Component.spelled b)) :
    ∀ param ∈ placeholders components, a.lookup? param.name = b.lookup? param.name := by
  have read : ∀ {params : ParamRecord}, Suits params components →
      capture components (components.flatMap (Component.spelled params)) []
        = some (params.restrictTo ((placeholders components).map (·.name))) :=
    fun suits => capture_spelled_of_suits suits one distinct
  -- The same texts are not read as two records.
  have same := Option.some.inj ((read suitsA).symm.trans (spelled ▸ read suitsB))
  intro param member
  have named : param.name ∈ (placeholders components).map (·.name) :=
    List.mem_map.mpr ⟨param, member, rfl⟩
  have found := congrArg (Bindings.lookup? · param.name) same
  simp only [ParamRecord.lookup?_restrictTo, if_pos named] at found
  exact found

/-- Only where nothing is given to an optional catch-all, and to it alone, no text is spelled. -/
theorem eq_singleton_of_spelled_eq_nil {params : ParamRecord} {components : List Component}
    (suits : Suits params components)
    (one : ((placeholders components).filter (·.isCatchAll)).length ≤ 1)
    (nonempty : components ≠ []) (nothing : components.flatMap (Component.spelled params) = []) :
    ∃ name, components = [.placeholder ⟨name, .optionalCatchAll⟩]
      ∧ params.lookup? name = some .absent := by
  have each : ∀ component ∈ components, ∃ name,
      component = .placeholder ⟨name, .optionalCatchAll⟩ ∧ params.lookup? name = some .absent := by
    intro component member
    have silent := List.flatMap_eq_nil_iff.mp nothing component member
    cases component with
    | literal text => cases silent
    | placeholder param =>
      obtain ⟨value, found, fits⟩ := suits param (List.mem_filterMap.mpr ⟨_, member, rfl⟩)
      rw [Component.spelled_placeholder found] at silent
      have optional : param.kind = .optionalCatchAll := by
        by_contra required
        exact ParamValue.texts_ne_nil_of_fits fits required silent
      have absent := ParamValue.capturedParts_texts fits (by rw [optional]; decide)
      rw [silent] at absent
      obtain ⟨name, kind⟩ := param
      cases optional
      exact ⟨name, rfl, found.trans (congrArg some absent.symm)⟩
  -- There is no second component, as it would be a second catch-all.
  obtain ⟨first, rest, rfl⟩ := List.exists_cons_of_ne_nil nonempty
  obtain ⟨name, rfl, found⟩ := each first List.mem_cons_self
  cases rest with
  | nil => exact ⟨name, rfl, found⟩
  | cons second others =>
    obtain ⟨other, rfl, -⟩ := each second (List.mem_cons_of_mem _ List.mem_cons_self)
    simp [SegmentParam.isCatchAll] at one

/-- Nothing and a single empty text, each given to an optional catch-all that is the whole
pathname. -/
def SharesRoot (pathname : String) (a b : ParamRecord) : Prop :=
  ∃ name, pattern pathname = [.placeholder ⟨name, .optionalCatchAll⟩]
    ∧ a.lookup? name = some .absent ∧ b.lookup? name = some (.parts [""])

theorem slash_not_mem_of_mem_encoded {pathname : String} {params : ParamRecord} {text : String}
    (member : text ∈ (pattern pathname).flatMap (Component.encoded params)) :
    '/' ∉ text.toList := by
  obtain ⟨component, inPattern, encoded⟩ := List.mem_flatMap.mp member
  cases component with
  | literal literal =>
    rw [Component.encoded, List.mem_singleton] at encoded
    exact encoded ▸ (isComponent_of_literal_mem_pattern inPattern).2
  | placeholder param =>
    rw [Component.encoded] at encoded
    split at encoded
    · rw [encodeValue_eq_map_texts] at encoded
      obtain ⟨given, -, rfl⟩ := List.mem_map.mp encoded
      rw [encodeComponent, String.toList_ofList]
      exact Text.not_mem_percentEncode_slash given.toList
    · cases encoded

section

variable {pathname : String} {a b : ParamRecord}

theorem SharesRoot.fillIn_eq (shares : SharesRoot pathname a b) :
    fillIn pathname a = fillIn pathname b := by
  obtain ⟨name, read, absent, empty⟩ := shares
  simp only [fillIn, read, List.flatMap_cons, List.flatMap_nil, Component.encoded, absent, empty]
  decide +kernel

theorem sharesRoot_of_encoded (suitsA : Suits a (pattern pathname))
    (suitsB : Suits b (pattern pathname))
    (one : ((placeholders (pattern pathname)).filter (·.isCatchAll)).length ≤ 1)
    (literals : ∀ text, .literal text ∈ pattern pathname → decodeComponent text = text)
    (nothing : (pattern pathname).flatMap (Component.encoded a) = [])
    (empty : (pattern pathname).flatMap (Component.encoded b) = [""]) :
    SharesRoot pathname a b := by
  have nonempty : pattern pathname ≠ [] := by
    intro none
    rw [none] at empty
    cases empty
  have spelled : ∀ params,
      ((pattern pathname).flatMap (Component.encoded params)).map decodeComponent
        = (pattern pathname).flatMap (Component.spelled params) :=
    fun _ => map_decodeComponent_encoded literals
  have spelledA := spelled a
  have spelledB := spelled b
  rw [nothing, List.map_nil] at spelledA
  rw [empty, List.map_singleton, decodeComponent_eq_empty_iff.mpr rfl] at spelledB
  obtain ⟨name, read, absent⟩ := eq_singleton_of_spelled_eq_nil suitsA one nonempty spelledA.symm
  rw [read] at spelledB suitsB
  obtain ⟨value, found, fits⟩ := suitsB _ List.mem_cons_self
  rw [List.flatMap_singleton, Component.spelled_placeholder found] at spelledB
  have back := ParamValue.capturedParts_texts fits (by rintro ⟨⟩)
  rw [← spelledB] at back
  exact ⟨name, read, absent, found.trans (congrArg some back.symm)⟩

/-- Of values that suit a pathname with at most one catch-all, different ones give different URL
paths, but for those that share the root. -/
theorem fillIn_eq_iff (suitsA : Suits a (pattern pathname)) (suitsB : Suits b (pattern pathname))
    (distinct : ((placeholders (pattern pathname)).map (·.name)).Nodup)
    (one : ((placeholders (pattern pathname)).filter (·.isCatchAll)).length ≤ 1)
    (literals : ∀ text, .literal text ∈ pattern pathname → decodeComponent text = text) :
    fillIn pathname a = fillIn pathname b
      ↔ (∀ param ∈ placeholders (pattern pathname), a.lookup? param.name = b.lookup? param.name)
        ∨ SharesRoot pathname a b ∨ SharesRoot pathname b a := by
  constructor
  · intro same
    rcases (joinSlashes_eq_iff (fun _ => slash_not_mem_of_mem_encoded)
        fun _ => slash_not_mem_of_mem_encoded).mp same with encoded | ⟨nothing, empty⟩ |
          ⟨empty, nothing⟩
    · left
      apply lookup?_eq_of_spelled_eq suitsA suitsB one distinct
      rw [← map_decodeComponent_encoded literals, encoded, map_decodeComponent_encoded literals]
    · exact Or.inr (Or.inl (sharesRoot_of_encoded suitsA suitsB one literals nothing empty))
    · exact Or.inr (Or.inr (sharesRoot_of_encoded suitsB suitsA one literals nothing empty))
  · rintro (same | shares | shares)
    · exact congrArg joinSlashes (encoded_congr same)
    · exact shares.fillIn_eq
    · exact shares.fillIn_eq.symm

end

end Pathname

end Prerender
