import Mathlib.Data.List.Nodup
import Prerender.Proofs.Expansion.Shape
import Prerender.Proofs.Pathname.Capture
import Prerender.Proofs.Pathname.FilledIn
import Prerender.Proofs.Route.Chain

/-!
# URL paths of an expansion

Generators may give empty texts, which leave nothing in a URL path that could be read. So a URL path
is read back as the path that it was filled in from exactly if that has no empty text, and no URL
path comes twice except where nothing and a single empty text share the root
(`expand_routes_back`).
-/

namespace Prerender

namespace Expansion

variable {σ ρ : Type}

/-! ### Paths of a result -/

/-- What a result holds: paths that give the parameters of a chain that is well declared values of
their kinds, no two of them the same mapping, and beside each the URL path that it is filled in
to. -/
structure Faithful (chain : List (SegmentWith σ)) (pathname : String) (result : StaticPaths ρ) :
    Prop where
  fulfil : ∀ path ∈ result.paths, WellDeclared chain ∧ Fulfils chain path
  differ : result.paths.Pairwise fun a b => ∃ name, a.lookup? name ≠ b.lookup? name
  filled : List.Forall₂ (fun path url => Pathname.interpolate pathname path = .ok url)
    result.paths result.pathnames

theorem faithful_of_expand {tasks : TaskLibrary} {chain : List (SegmentWith σ)}
    {policy : ExpansionPolicy ρ} {pathname : String} {fallbackShells : Bool} {concurrency : Value}
    {calls : List Call} {result : StaticPaths ρ}
    (expanded :
      (expand tasks chain policy (some pathname) fallbackShells concurrency calls).1 = .ok result) :
    Faithful chain pathname result := by
  have within : Within (ShapedBy chain) calls
      (expandChain (tasks.overrun concurrency) (ownersOf chain) chain [[]] calls) :=
    expandChain_within (tasks.overrun concurrency) (fun _ inChain => merge_shapedBy inChain)
      (List.forall_mem_singleton.mpr (shapedBy_nil chain)) calls
  rcases expand_cases rfl with ⟨-, early⟩ | ⟨declared, -, late⟩
  · obtain ⟨noPaths, noPathnames⟩ := early result expanded
    refine ⟨?_, ?_, ?_⟩
    · rw [noPaths]
      exact fun _ member => absurd member List.not_mem_nil
    · rw [noPaths]
      exact .nil
    · rw [noPaths, noPathnames]
      exact .nil
  · obtain ⟨records, ran, paths, filled⟩ := late result expanded
    have shaped := within.records records ran
    refine ⟨?_, ?_, pathnamesOf_eq_ok_iff.mp filled⟩
    · intro path member
      rw [paths] at member
      obtain ⟨inRecords, complete⟩ := mem_of_mem_pathsOf member
      exact ⟨declared, fulfils_of_isComplete declared (shaped path inRecords) complete⟩
    · rw [paths]
      exact pathsOf_pairwise fun record member => (shaped record member).nodup

/-! ### Paths and pathnames -/

section

variable {chain : List (SegmentWith σ)} {pathname : String} {path : ParamRecord}

/-- A path suits every pathname that has the parameters of its chain. -/
theorem Fulfils.suits (fulfils : Fulfils chain path)
    (params : Pathname.placeholders (Pathname.pattern pathname) = paramsOf chain) :
    Pathname.Suits path (Pathname.pattern pathname) := by
  intro param member
  rw [params] at member
  obtain ⟨segment, inChain, carried⟩ := List.mem_filterMap.mp member
  have dynamic := SegmentWith.isDynamic_of_paramName? (SegmentWith.paramName?_of_param? carried)
  obtain ⟨other, value, carriedOther, found, fits⟩ := fulfils.fitting segment inChain dynamic
  obtain rfl := Option.some.inj (carried.symm.trans carriedOther)
  exact ⟨value, found, fits⟩

theorem Fulfils.lookup?_eq_none (fulfils : Fulfils chain path)
    (params : Pathname.placeholders (Pathname.pattern pathname) = paramsOf chain) {name : String}
    (other : name ∉ (Pathname.placeholders (Pathname.pattern pathname)).map (·.name)) :
    path.lookup? name = none := by
  rw [params, ← paramNames_eq_map_paramsOf, ← fulfils.exact, Bindings.binds_iff_mem_names] at other
  exact Bindings.lookup?_eq_none_iff.mpr other

/-- Paths are the same mapping if they agree on the parameters of the pathname. -/
theorem Fulfils.lookup?_eq {other : ParamRecord} (fulfils : Fulfils chain path)
    (fulfilsOther : Fulfils chain other)
    (params : Pathname.placeholders (Pathname.pattern pathname) = paramsOf chain)
    (same : ∀ param ∈ Pathname.placeholders (Pathname.pattern pathname),
      path.lookup? param.name = other.lookup? param.name) (name : String) :
    path.lookup? name = other.lookup? name := by
  by_cases isParam : name ∈ (Pathname.placeholders (Pathname.pattern pathname)).map (·.name)
  · obtain ⟨param, member, rfl⟩ := List.mem_map.mp isParam
    exact same param member
  · rw [fulfils.lookup?_eq_none params isParam, fulfilsOther.lookup?_eq_none params isParam]

theorem eq_map_fillIn {paths : List ParamRecord} {pathnames : List String}
    (suits : ∀ path ∈ paths, Pathname.Suits path (Pathname.pattern pathname))
    (filled : List.Forall₂ (fun path url => Pathname.interpolate pathname path = .ok url)
      paths pathnames) : pathnames = paths.map (Pathname.fillIn pathname) := by
  induction filled with
  | nil => rfl
  | cons here _ ih =>
    obtain ⟨suitsHere, suitsBehind⟩ := List.forall_mem_cons.mp suits
    rw [Pathname.interpolate_eq_fillIn suitsHere] at here
    rw [List.map_cons, Except.ok.inj here, ih suitsBehind]

/-- The URL path of a path is read back as that exactly if no text of it is empty. -/
theorem Fulfils.routesBack_iff (fulfils : Fulfils chain path) (declared : WellDeclared chain)
    (params : Pathname.placeholders (Pathname.pattern pathname) = paramsOf chain)
    (one : ((paramsOf chain).filter (·.isCatchAll)).length ≤ 1)
    (literals : ∀ text, .literal text ∈ Pathname.pattern pathname →
      Pathname.decodeComponent text = text) :
    (∃ captured, Pathname.captures? pathname (Pathname.fillIn pathname path) = some captured
        ∧ ∀ name, captured.lookup? name = path.lookup? name)
      ↔ ∀ binding ∈ path, "" ∉ binding.2.texts := by
  have distinct : ((Pathname.placeholders (Pathname.pattern pathname)).map (·.name)).Nodup := by
    rw [params, ← paramNames_eq_map_paramsOf]
    exact declared.distinct
  constructor
  · rintro ⟨captured, matched, same⟩ ⟨name, value⟩ member empty
    have found := Bindings.lookup?_of_mem fulfils.nodup member
    -- What was read off has no empty text, so the path has none under the name of a parameter.
    have fills := Pathname.fills_of_capture matched distinct fun _ => Pathname.decoded_ne_empty
    have isParam : name ∈ (Pathname.placeholders (Pathname.pattern pathname)).map (·.name) := by
      by_contra other
      rw [fulfils.lookup?_eq_none params other] at found
      cases found
    obtain ⟨param, isPlaceholder, rfl⟩ := List.mem_map.mp isParam
    obtain ⟨read, foundRead, -, filled⟩ := fills param isPlaceholder
    rw [same, found] at foundRead
    cases foundRead
    exact filled "" empty rfl
  · intro filled
    have fills : Pathname.Fills path (Pathname.pattern pathname) := by
      intro param member
      obtain ⟨value, found, fits⟩ := fulfils.suits params param member
      refine ⟨value, found, fits, ?_⟩
      rintro _ inValue rfl
      exact filled _ (Bindings.mem_of_lookup? found) inValue
    refine ⟨_, Pathname.captures?_fillIn distinct (params ▸ one) literals fills, ?_⟩
    intro name
    rw [ParamRecord.lookup?_restrictTo]
    split
    · rfl
    · next other => exact (fulfils.lookup?_eq_none params other).symm

end

end Expansion

open Expansion in
/-- Whatever the generators answer: each URL path of the result is read back as the path beside it
exactly if that has no empty text, and no URL path comes twice, except that nothing and a single
empty text share the root where the pathname is an optional catch-all alone. -/
theorem expand_routes_back {σ ρ : Type} (tasks : TaskLibrary) (chain : List (SegmentWith σ))
    (policy : ExpansionPolicy ρ) (pathname : String) (fallbackShells : Bool)
    (concurrency : Value) (calls : List Call) (result : StaticPaths ρ)
    (params : Pathname.placeholders (Pathname.pattern pathname) = paramsOf chain)
    (one : ((paramsOf chain).filter (·.isCatchAll)).length ≤ 1)
    (literals : ∀ text, .literal text ∈ Pathname.pattern pathname →
      Pathname.decodeComponent text = text)
    (expanded :
      (expand tasks chain policy (some pathname) fallbackShells concurrency calls).1 = .ok result) :
    List.Forall₂
        (fun path url =>
          (∃ captured, Pathname.captures? pathname url = some captured
              ∧ ∀ name, captured.lookup? name = path.lookup? name)
            ↔ ∀ binding ∈ path, "" ∉ binding.2.texts)
        result.paths result.pathnames
      ∧ (result.pathnames.Nodup
          ↔ ¬∃ a ∈ result.paths, ∃ b ∈ result.paths, Pathname.SharesRoot pathname a b) := by
  obtain ⟨fulfil, differ, filled⟩ := faithful_of_expand expanded
  have suits : ∀ path ∈ result.paths, Pathname.Suits path (Pathname.pattern pathname) :=
    fun path member => (fulfil path member).2.suits params
  rw [eq_map_fillIn suits filled]
  refine ⟨?_, ?_, ?_⟩
  · rw [List.forall₂_map_right_iff, List.forall₂_same]
    intro path member
    obtain ⟨declared, fulfils⟩ := fulfil path member
    exact fulfils.routesBack_iff declared params one literals
  · rintro nodup ⟨a, inA, b, inB, shares⟩
    obtain rfl := List.inj_on_of_nodup_map nodup inA inB shares.fillIn_eq
    obtain ⟨name, -, absent, empty⟩ := shares
    rw [absent] at empty
    cases empty
  · intro apart
    refine List.pairwise_map.mpr (differ.imp_of_mem ?_)
    rintro a b inA inB ⟨name, differs⟩ same
    have distinct := (fulfil a inA).1.distinct
    rw [paramNames_eq_map_paramsOf, ← params] at distinct
    rcases (Pathname.fillIn_eq_iff (suits a inA) (suits b inB) distinct (params ▸ one)
        literals).mp same with agree | shares | shares
    · exact differs ((fulfil a inA).2.lookup?_eq (fulfil b inB).2 params agree name)
    · exact apart ⟨a, inA, b, inB, shares⟩
    · exact apart ⟨b, inB, a, inA, shares⟩

open Expansion in
/-- Nothing refuses an empty text, which fills in nothing. -/
theorem expand_accepts_empty_text :
    let slug : SegmentWith Unit :=
      { name := "[slug]", role := .dynamic (some ⟨"slug", .single⟩)
        generator := some (.callable ⟨"slug", fun _ _ => .ok (.list
          [.mapping [(.text "slug", .text "")]])⟩) }
    Pathname.pattern "/[slug]" = (paramsOf [slug]).map .placeholder
      ∧ ((paramsOf [slug]).filter (·.isCatchAll)).length ≤ 1
      ∧ ∃ result,
          (expand .standard [slug] ⟨.static, (), true⟩ (some "/[slug]") false
            (.number (.int 8)) []).1
            = .ok result
          ∧ result.paths = [[("slug", .text "")]]
          ∧ result.pathnames = ["/"]
          ∧ Pathname.captures? "/[slug]" "/" = none := by
  intro slug
  have ran :
      (expand .standard [slug] ⟨.static, (), true⟩ (some "/[slug]") false (.number (.int 8)) []).1
      = .ok
          { paths := [[("slug", .text "")]], fallback := .blocking, revalidate := ()
            pathnames := ["/"] } := by
    decide +kernel
  exact ⟨by decide +kernel, by decide, _, ran, rfl, rfl, by decide +kernel⟩

open Expansion in
theorem expand_routes_back_root :
    let rest : SegmentWith Unit :=
      { name := "[[...rest]]", role := .dynamic (some ⟨"rest", .optionalCatchAll⟩)
        generator := some (.callable ⟨"rest", fun _ _ => .ok (.list
          [.mapping [], .mapping [(.text "rest", .list [.text ""])],
            .mapping [(.text "rest", .list [.text "a/b"])]])⟩) }
    ∃ result,
      (expand .standard [rest] ⟨.static, (), true⟩ (some "/[[...rest]]") false
        (.number (.int 8)) []).1
        = .ok result
      ∧ result.paths = [[("rest", .absent)], [("rest", .parts [""])], [("rest", .parts ["a/b"])]]
      ∧ result.pathnames = ["/", "/", "/a%2Fb"]
      ∧ ¬result.pathnames.Nodup
      ∧ ∃ captured, Pathname.captures? "/[[...rest]]" "/a%2Fb" = some captured
          ∧ ∀ name, captured.lookup? name = Bindings.lookup? [("rest", .parts ["a/b"])] name := by
  intro rest
  have ran : (expand .standard [rest] ⟨.static, (), true⟩ (some "/[[...rest]]") false
      (.number (.int 8)) []).1
        = .ok
            { paths := [[("rest", .absent)], [("rest", .parts [""])], [("rest", .parts ["a/b"])]]
              fallback := .blocking, revalidate := (), pathnames := ["/", "/", "/a%2Fb"] } := by
    decide +kernel
  have read : Pathname.pattern "/[[...rest]]" = [.placeholder ⟨"rest", .optionalCatchAll⟩] := by
    decide +kernel
  obtain ⟨routed, nodup⟩ :=
    expand_routes_back _ _ _ _ _ _ _ _ (by rw [read]; rfl) (by decide) (by decide +kernel) ran
  refine ⟨_, ran, rfl, rfl, ?_, ?_⟩
  · intro distinct
    exact nodup.mp distinct ⟨_, List.mem_cons_self, _, List.mem_cons_of_mem _ List.mem_cons_self,
      "rest", read, rfl, rfl⟩
  · simp only [List.forall₂_cons] at routed
    exact routed.2.2.1.mpr (by decide)

end Prerender
