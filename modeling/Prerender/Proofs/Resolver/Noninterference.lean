import Prerender.Proofs.Except
import Prerender.Proofs.Route.PrimaryChain
import Prerender.Resolver.Resolution

/-!
# What resolving a page depends on

Two pages of one id and pathname are alike to a build if their primary chains are: node by node the
same segment name, and modules behind them that are the same or are both for clients only
(`Page.Alike`). Branches beside the primary one, pages behind a layout and what a client module
holds may differ. Alike pages have one chain of segments (`Page.Alike.chain_eq`), and nothing later
looks at the tree again, so they are resolved alike (`Page.resolve_eq_of_alike`).
-/

namespace Prerender

/-- Modules from one file that are alike to a build. -/
inductive LoadedModule.Alike : LoadedModule → LoadedModule → Prop where
  | same (module : LoadedModule) : Alike module module
  /-- What modules hold that are for clients only does not count. -/
  | clients {path : Option String} {exports other : Value}
      (isClient : Exports.isClient exports = true)
      (otherIsClient : Exports.isClient other = true) :
    Alike ⟨path, exports⟩ ⟨path, other⟩

/-- Levels of two trees that are alike to a build. -/
structure TreeNode.Alike (first second : TreeNode) : Prop where
  segment : first.segment = second.segment
  module : Option.Rel LoadedModule.Alike first.module? second.module?

/-- Pages that are alike to a build. -/
structure Page.Alike (first second : Page) : Prop where
  routeId : first.routeId = second.routeId
  pathname : first.pathname = second.pathname
  primaryChain :
    List.Forall₂ TreeNode.Alike first.root.primaryChain second.root.primaryChain

/-- The exports of a module that is for clients can be read. -/
theorem Exports.raised?_eq_none_of_isClient {exports : Value} (isClient : isClient exports = true) :
    raised? exports = none := by
  cases exports with
  | unreadable type written raised => cases isClient
  | _ => rfl

/-- Of a step, a segment takes its name, and of the module behind it what is alike. -/
theorem RouteStep.segment_congr (routeId name : String) {first second : Option LoadedModule}
    (alike : Option.Rel LoadedModule.Alike first second) :
    RouteStep.segment routeId ⟨name, first⟩ = RouteStep.segment routeId ⟨name, second⟩ := by
  cases alike with
  | none => rfl
  | some alike =>
    cases alike with
    | same module => rfl
    | clients isClient otherIsClient =>
      have readable := Exports.raised?_eq_none_of_isClient isClient
      have otherReadable := Exports.raised?_eq_none_of_isClient otherIsClient
      simp only [RouteStep.segment, RouteStep.backedSegment, readable, otherReadable, isClient,
        otherIsClient, if_true]

/-- Steps that give the same segments give the same chain. -/
theorem RouteStep.chain_congr {routeId : String} {first second : List RouteStep}
    (each : List.Forall₂
      (fun a b => RouteStep.segment routeId a = RouteStep.segment routeId b) first second) :
    RouteStep.chain routeId first = RouteStep.chain routeId second := by
  have segments : first.mapM (RouteStep.segment routeId)
      = second.mapM (RouteStep.segment routeId) := by
    induction each with
    | nil => rfl
    | cons here _ ih => rw [List.mapM_cons, List.mapM_cons, here, ih]
  rw [RouteStep.chain, RouteStep.chain, segments]

/-- Pages that are alike have one chain of segments, or fail to have one in the same way. -/
theorem Page.Alike.chain_eq {first second : Page} (alike : first.Alike second) :
    (Route.page first).chain = (Route.page second).chain := by
  rw [Route.chain, Route.chain, TreeNode.primarySteps_eq_map, TreeNode.primarySteps_eq_map,
    alike.routeId]
  apply RouteStep.chain_congr
  rw [List.forall₂_map_left_iff, List.forall₂_map_right_iff]
  refine alike.primaryChain.imp ?_
  intro node other levels
  rw [levels.segment]
  exact RouteStep.segment_congr _ _ levels.module

/-- Pages that are alike come to the same resolved route or the same failure, behind the same calls
of generators. -/
theorem Page.resolve_eq_of_alike {first second : Page} (alike : first.Alike second)
    (tasks : TaskLibrary) (config : ResolverConfig) (calls : List Call) :
    (Route.page first).resolve tasks config calls
      = (Route.page second).resolve tasks config calls := by
  rw [Route.resolve, Route.resolve, alike.chain_eq, alike.routeId, alike.pathname]

theorem Page.resolve_eq_of_alike_hidden :
    let slugs : LoadedModule := ⟨some "app/[slug]/layout.py", .moduleObject
      [(generatorName, .function "slugs" fun _ _ => .ok (.list
        [.mapping [(.text "slug", .text "a")]]))]⟩
    let broken : LoadedModule := ⟨some "app/[slug]/page.py", .moduleObject
      [(generatorName, .function "broken" fun _ _ => .error (.crash (.stated .value "no")))]⟩
    let marked : LoadedModule := ⟨some "app/layout.py", .moduleObject
      [("__client__", .bool true), ("dynamic", .text "force-dynamic")]⟩
    let described : LoadedModule := ⟨some "app/layout.py", .mapping
      [(.text "__doc__", .text " use client ")]⟩
    let first : Page := ⟨"/[slug]", "/[slug]", ⟨"", some marked, none,
      [("@side", ⟨"@side", some broken, none, []⟩),
        (primaryBranch, ⟨"[slug]", some slugs, some broken, []⟩)]⟩⟩
    let second : Page := ⟨"/[slug]", "/[slug]", ⟨"", none, some described,
      [(primaryBranch, ⟨"[slug]", some slugs, none, [("@more", ⟨"[]", none, none, []⟩)]⟩)]⟩⟩
    ∃ resolved, (Route.page first).resolve .standard .default []
      = (.ok resolved, [⟨"slugs", .params []⟩])
      ∧ (Route.page second).resolve .standard .default [] = (.ok resolved, [⟨"slugs", .params []⟩])
      ∧ resolved.staticPaths.pathnames = ["/a"] := by
  intro slugs broken marked described first second
  have alike : first.Alike second := by
    refine ⟨rfl, rfl, .cons ⟨rfl, .some (.clients ?_ ?_)⟩ (.cons ⟨rfl, .some (.same slugs)⟩ .nil)⟩
    · decide +kernel
    · decide +kernel
  have resolved : (Route.page first).resolve .standard .default []
      = (.ok
          { routeId := "/[slug]", kind := .page
            policy := { mode := .dynamic }
            staticPaths :=
              { paths := [[("slug", .text "a")]], fallback := .blocking, revalidate := .never
                pathnames := ["/a"] } },
        [⟨"slugs", .params []⟩]) := by
    decide +kernel
  exact ⟨_, resolved, (resolve_eq_of_alike alike .standard .default []).symm.trans resolved, rfl⟩

end Prerender
