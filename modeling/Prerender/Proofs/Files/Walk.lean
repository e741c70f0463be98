import Prerender.Proofs.Bindings
import Prerender.Proofs.Files.Discovery

/-!
# The walk through an app directory

The walk reaches the directories of a tree to which no name leads that is ignored
(`IsReached.exists_mem_walk`), finds what they hold (`describes_of_mem_walk`) and reaches none of
them twice (`nodup_walk`). It succeeds exactly if what it finds there is unambiguous: no directory
is both a page and a handler, and no two with a page or a handler have one URL
(`discover_isOk_iff`). The routes are then those directories, by their URLs (`mem_routes_iff`).
-/

namespace Prerender

open Pathname (IsComponent)

namespace AppDirectory

/-! ### Routes on disk -/

/-- A directory to which no name leads that is ignored. -/
structure IsReached (here : Place) (path : TreePath) : Prop where
  isDirectory : here.IsDirectory path
  notIgnored : ∀ name ∈ path, isIgnored name = false

/-- A directory that is reached and has a page or a handler. -/
structure IsRoute (here : Place) (path : TreePath) : Prop where
  reached : IsReached here path
  holds : here.IsFile (path ++ [pageFile]) ∨ here.IsFile (path ++ [handlerFile])

/-- The names on the way to a directory that are part of its URL. -/
def urlNames (path : TreePath) : List String :=
  path.filter fun name => !isGroup name

/-- The URL of a directory. -/
def urlOf (path : TreePath) : String :=
  "/" ++ "/".intercalate (urlNames path)

/-- No directory has a page and a handler, and no two routes have one URL. -/
structure Unambiguous (here : Place) : Prop where
  oneKind : ∀ path, IsReached here path →
    ¬(here.IsFile (path ++ [pageFile]) ∧ here.IsFile (path ++ [handlerFile]))
  oneDirectory : ∀ path other, IsRoute here path → IsRoute here other →
    urlNames path = urlNames other → path = other

/-! ### Directories that are reached -/

namespace Reached

/-- What is found of a directory with some entries. -/
def ofEntries (path : TreePath) (entries : List (String × FileTree)) : Reached :=
  ⟨path, holdsFile entries pageFile, holdsFile entries handlerFile⟩

/-- Whether a directory has a page or a handler. -/
def isRoute (directory : Reached) : Bool :=
  directory.hasPage || directory.hasHandler

/-- The route of a directory, by its pathname. -/
def route (directory : Reached) : String × FoundRoute :=
  (pathnameOf directory.path, ⟨directory.path, directory.hasPage⟩)

/-- What the walk says of a directory is how it is on disk. -/
structure Describes (here : Place) (directory : Reached) : Prop where
  isReached : IsReached here directory.path
  page : directory.hasPage = true ↔ here.IsFile (directory.path ++ [pageFile])
  handler : directory.hasHandler = true ↔ here.IsFile (directory.path ++ [handlerFile])

theorem Describes.isRoute_iff {here : Place} {directory : Reached}
    (describes : directory.Describes here) :
    directory.isRoute = true ↔ IsRoute here directory.path := by
  rw [Reached.isRoute, Bool.or_eq_true, describes.page, describes.handler]
  exact ⟨fun holds => ⟨describes.isReached, holds⟩, fun route => route.holds⟩

end Reached

theorem mem_reachedBelow_iff {path : TreePath} {entries : List (String × FileTree)}
    {directory : Reached} :
    directory ∈ reachedBelow path entries
      ↔ ∃ name tree, (name, tree) ∈ entries ∧ isIgnored name = false
          ∧ directory ∈ reached (path ++ [name]) tree := by
  induction entries with
  | nil =>
    rw [reachedBelow]
    exact iff_of_false List.not_mem_nil (by rintro ⟨_, _, member, _⟩; cases member)
  | cons entry rest ih =>
    obtain ⟨first, child⟩ := entry
    rw [reachedBelow, List.mem_append, ih]
    constructor
    · rintro (here | ⟨name, tree, member, shown, isReached⟩)
      · split at here
        · cases here
        · next shown =>
          exact ⟨first, child, List.mem_cons_self, Bool.eq_false_iff.mpr shown, here⟩
      · exact ⟨name, tree, List.mem_cons_of_mem _ member, shown, isReached⟩
    · rintro ⟨name, tree, member, shown, isReached⟩
      rcases List.mem_cons.mp member with same | later
      · cases same
        rw [if_neg (by simp [shown])]
        exact Or.inl isReached
      · exact Or.inr ⟨name, tree, later, shown, isReached⟩

/-- Every directory that can be reached is. -/
theorem mem_reached_of_find {tree : FileTree} {path below : TreePath}
    {entries : List (String × FileTree)}
    (stands : tree.find below = .present (.directory entries))
    (notIgnored : ∀ name ∈ below, isIgnored name = false) :
    Reached.ofEntries (path ++ below) entries ∈ reached path tree := by
  induction below generalizing tree path with
  | nil =>
    rw [FileTree.find_nil] at stands
    rw [Place.present.inj stands, reached, List.append_nil]
    exact List.mem_cons_self
  | cons name rest ih =>
    rw [List.forall_mem_cons] at notIgnored
    obtain ⟨siblings, child, rfl, found, stands⟩ := FileTree.exists_of_find_cons stands
    rw [reached, List.append_cons]
    refine List.mem_cons_of_mem _ (mem_reachedBelow_iff.mpr ?_)
    exact ⟨name, child, Bindings.mem_of_lookup? found, notIgnored.1, ih stands notIgnored.2⟩

mutual

/-- Every directory that is reached stands where it is said to. -/
theorem exists_of_mem_reached : ∀ {tree : FileTree}, tree.Distinct →
    ∀ {path : TreePath} {directory : Reached}, directory ∈ reached path tree →
      ∃ below entries, tree.find below = .present (.directory entries)
        ∧ (∀ name ∈ below, isIgnored name = false)
        ∧ directory = Reached.ofEntries (path ++ below) entries
  | .file _, _, path, directory => by
    rw [reached]
    exact fun member => absurd member List.not_mem_nil
  | .directory siblings, distinct, path, directory => by
    rw [FileTree.Distinct] at distinct
    rw [reached, List.mem_cons]
    rintro (rfl | isBelow)
    · exact ⟨[], siblings, rfl, fun _ member => absurd member List.not_mem_nil,
        by rw [List.append_nil]; rfl⟩
    · obtain ⟨name, child, below, entries, member, shown, stands, notIgnored, rfl⟩ :=
        exists_of_mem_reachedBelow distinct.2 isBelow
      refine ⟨name :: below, entries, ?_, List.forall_mem_cons.mpr ⟨shown, notIgnored⟩, rfl⟩
      rw [FileTree.find_cons (Bindings.lookup?_of_mem distinct.1 member)]
      exact stands

theorem exists_of_mem_reachedBelow : ∀ {siblings : List (String × FileTree)},
    FileTree.DistinctBelow siblings →
    ∀ {path : TreePath} {directory : Reached}, directory ∈ reachedBelow path siblings →
      ∃ name child below entries, (name, child) ∈ siblings ∧ isIgnored name = false
        ∧ child.find below = .present (.directory entries)
        ∧ (∀ name ∈ below, isIgnored name = false)
        ∧ directory = Reached.ofEntries (path ++ name :: below) entries
  | [], _, path, directory => by
    rw [reachedBelow]
    exact fun member => absurd member List.not_mem_nil
  | (first, tree) :: rest, distinct, path, directory => by
    rw [FileTree.DistinctBelow] at distinct
    rw [reachedBelow, List.mem_append]
    rintro (here | later)
    · split at here
      · cases here
      · next shown =>
        obtain ⟨below, entries, stands, notIgnored, rfl⟩ := exists_of_mem_reached distinct.1 here
        refine ⟨first, tree, below, entries, List.mem_cons_self, Bool.eq_false_iff.mpr shown,
          stands, notIgnored, ?_⟩
        rw [List.append_assoc, List.singleton_append]
    · obtain ⟨name, child, below, entries, member, facts⟩ :=
        exists_of_mem_reachedBelow distinct.2 later
      exact ⟨name, child, below, entries, List.mem_cons_of_mem _ member, facts⟩

end

theorem holdsFile_iff {entries : List (String × FileTree)} {name : String} :
    holdsFile entries name = true
      ↔ ∃ source, (FileTree.directory entries).find [name] = .present (.file source) := by
  rw [holdsFile, FileTree.find]
  cases Bindings.lookup? entries name with
  | none => exact iff_of_false (by rintro ⟨⟩) (by rintro ⟨_, ⟨⟩⟩)
  | some tree =>
    cases tree with
    | file source => exact iff_of_true rfl ⟨source, rfl⟩
    | directory _ => exact iff_of_false (by rintro ⟨⟩) (by rintro ⟨_, ⟨⟩⟩)

/-- What the walk finds in a directory is what it holds. -/
theorem describes_of_mem_reached {tree : FileTree} (distinct : tree.Distinct)
    {directory : Reached} (member : directory ∈ reached [] tree) :
    directory.Describes (.present tree) := by
  have holds : ∀ {path : TreePath} {entries : List (String × FileTree)} (name : String),
      tree.find path = .present (.directory entries) →
        (holdsFile entries name = true ↔ (Place.present tree).IsFile (path ++ [name])) := by
    intro path entries name stands
    rw [holdsFile_iff, Place.IsFile, Place.find, FileTree.find_append, stands, Place.find]
  obtain ⟨path, entries, stands, notIgnored, rfl⟩ := exists_of_mem_reached distinct member
  rw [List.nil_append]
  exact ⟨⟨⟨entries, stands⟩, notIgnored⟩, holds pageFile stands, holds handlerFile stands⟩

mutual

/-- No directory is reached twice. -/
theorem nodup_reached : ∀ {tree : FileTree}, tree.Distinct → ∀ (path : TreePath),
    ((reached path tree).map (·.path)).Nodup
  | .file _, _, path => by
    rw [reached]
    exact List.nodup_nil
  | .directory entries, distinct, path => by
    rw [FileTree.Distinct] at distinct
    rw [reached, List.map_cons, List.nodup_cons]
    refine ⟨?_, nodup_reachedBelow distinct.1 distinct.2 path⟩
    rintro member
    obtain ⟨directory, isBelow, same⟩ := List.mem_map.mp member
    obtain ⟨name, _, below, _, _, _, _, _, rfl⟩ := exists_of_mem_reachedBelow distinct.2 isBelow
    exact List.cons_ne_nil name below (List.append_right_eq_self.mp same)

theorem nodup_reachedBelow : ∀ {entries : List (String × FileTree)},
    (Bindings.names entries).Nodup → FileTree.DistinctBelow entries → ∀ (path : TreePath),
    ((reachedBelow path entries).map (·.path)).Nodup
  | [], _, _, path => by
    rw [reachedBelow]
    exact List.nodup_nil
  | (name, tree) :: rest, unique, distinct, path => by
    rw [FileTree.DistinctBelow] at distinct
    rw [Bindings.names_cons, List.nodup_cons] at unique
    rw [reachedBelow, List.map_append]
    refine List.Nodup.append ?_ (nodup_reachedBelow unique.2 distinct.2 path) ?_
    · split
      · exact List.nodup_nil
      · exact nodup_reached distinct.1 (path ++ [name])
    · -- The paths of the two parts differ in the name behind the path of the directory.
      intro shared here later
      obtain ⟨first, isFirst, rfl⟩ := List.mem_map.mp here
      obtain ⟨second, isSecond, same⟩ := List.mem_map.mp later
      obtain ⟨other, child, more, _, member, _, _, _, rfl⟩ :=
        exists_of_mem_reachedBelow distinct.2 isSecond
      split at isFirst
      · cases isFirst
      · obtain ⟨below, _, _, _, rfl⟩ := exists_of_mem_reached distinct.1 isFirst
        simp only [Reached.ofEntries, List.append_assoc, List.singleton_append,
          List.append_cancel_left_eq, List.cons.injEq] at same
        obtain ⟨rfl, -⟩ := same
        exact unique.1 (List.mem_map.mpr ⟨_, member, rfl⟩)

end

/-! ### Routes among directories -/

/-- The routes of those directories that have one. -/
def routesOf (directories : List Reached) : Bindings FoundRoute :=
  (directories.filter (·.isRoute)).map (·.route)

/-- The routes among some directories are all of them, unless a directory has two or two have one
pathname. -/
theorem routesAmong_eq_ok_iff {root : String} {directories : List Reached}
    {found routes : Bindings FoundRoute} (nodup : found.names.Nodup) :
    routesAmong root found directories = .ok routes
      ↔ (∀ directory ∈ directories, (directory.hasPage && directory.hasHandler) = false)
        ∧ (found ++ routesOf directories).names.Nodup
        ∧ found ++ routesOf directories = routes := by
  induction directories generalizing found with
  | nil =>
    have none : found ++ routesOf [] = found := List.append_nil found
    rw [routesAmong, Except.ok.injEq, none]
    exact ⟨fun same => ⟨fun _ member => absurd member List.not_mem_nil, nodup, same⟩,
      fun facts => facts.2.2⟩
  | cons directory rest ih =>
    rw [routesAmong, List.forall_mem_cons]
    cases both : directory.hasPage && directory.hasHandler with
    | true => simp
    | false =>
      cases has : directory.isRoute with
      | false =>
        have skipped : routesOf (directory :: rest) = routesOf rest := by
          rw [routesOf, List.filter_cons_of_neg (by simp [has]), routesOf]
        rw [Reached.isRoute] at has
        simp only [has, Bool.false_eq_true, if_false, skipped, true_and]
        exact ih nodup
      | true =>
        have taken : routesOf (directory :: rest) = directory.route :: routesOf rest := by
          rw [routesOf, List.filter_cons_of_pos has, List.map_cons, routesOf]
        rw [Reached.isRoute] at has
        simp only [has, if_true, taken, Bool.false_eq_true, if_false, true_and]
        cases first : found.lookup? (pathnameOf directory.path) with
        | some other =>
          refine iff_of_false (by rintro ⟨⟩) ?_
          rintro ⟨-, distinct, -⟩
          exact Bindings.not_nodup_of_bound first _ _ distinct
        | none =>
          have unbound := Bindings.lookup?_eq_none_iff.mp first
          have behind : found.assign (pathnameOf directory.path) ⟨directory.path, directory.hasPage⟩
              = found ++ [directory.route] := Bindings.assign_eq_append unbound _
          simp only [behind]
          rw [ih, List.append_assoc, List.singleton_append]
          rw [← behind]
          exact Bindings.nodup_names_assign nodup _ _

/-- What goes wrong among some directories is a fault of their structure. -/
theorem routesAmong_failsWith (root : String) (found : Bindings FoundRoute)
    (directories : List Reached) :
    Except.FailsWith (fun failure => ∃ fault, failure = .structural fault)
      (routesAmong root found directories) := by
  induction directories generalizing found with
  | nil => exact .ok found
  | cons directory rest ih =>
    rw [routesAmong]
    split
    · exact .error ⟨_, rfl⟩
    · split
      · simp only
        split
        · exact .error ⟨_, rfl⟩
        · exact ih _
      · exact ih found

theorem mem_routesOf_iff {directories : List Reached} {routeId : String} {route : FoundRoute} :
    (routeId, route) ∈ routesOf directories
      ↔ ∃ directory ∈ directories, directory.isRoute = true
        ∧ routeId = pathnameOf directory.path ∧ route = ⟨directory.path, directory.hasPage⟩ := by
  simp only [routesOf, Reached.route, List.mem_map, List.mem_filter, Prod.mk.injEq, and_assoc,
    eq_comm]

/-- No two of the routes of some directories have one pathname if no two directories do. -/
theorem nodup_routesOf_iff {directories : List Reached}
    (nodup : (directories.map (·.path)).Nodup) :
    (routesOf directories).names.Nodup
      ↔ ∀ first ∈ directories, first.isRoute = true → ∀ second ∈ directories,
          second.isRoute = true → pathnameOf first.path = pathnameOf second.path →
            first = second := by
  have names : (routesOf directories).names
      = (directories.filter (·.isRoute)).map fun directory => pathnameOf directory.path := by
    rw [routesOf, Bindings.names, List.map_map]
    rfl
  rw [names, List.nodup_map_iff_inj_on (nodup.of_map.filter _)]
  simp only [List.mem_filter, and_imp]

/-! ### Discovery -/

/-- The directories that are reached, in the order of their paths. -/
def walk (tree : FileTree) : List Reached :=
  (reached [] tree).mergeSort fun a b => a.path.before b.path

theorem mem_walk {tree : FileTree} {directory : Reached} :
    directory ∈ walk tree ↔ directory ∈ reached [] tree :=
  List.mem_mergeSort

theorem nodup_walk {tree : FileTree} (distinct : tree.Distinct) :
    ((walk tree).map (·.path)).Nodup :=
  ((List.mergeSort_perm _ _).map _).nodup_iff.mpr (nodup_reached distinct [])

theorem discover_eq_walk (root : String) (entries : List (String × FileTree)) :
    discover root (.present (.directory entries))
      = (routesAmong root [] (walk (.directory entries))).mapError .failure :=
  rfl

theorem discover_eq_ok_iff {root : String} {entries : List (String × FileTree)}
    {routes : Bindings FoundRoute} :
    discover root (.present (.directory entries)) = .ok routes
      ↔ (∀ directory ∈ walk (.directory entries),
          (directory.hasPage && directory.hasHandler) = false)
        ∧ (routesOf (walk (.directory entries))).names.Nodup
        ∧ routesOf (walk (.directory entries)) = routes := by
  have none : (Bindings.names ([] : Bindings FoundRoute)).Nodup := List.nodup_nil
  rw [discover_eq_walk, Except.mapError_eq_ok_iff, routesAmong_eq_ok_iff none, List.nil_append]

/-- The pathname of a directory is its URL. -/
theorem pathnameOf_eq (path : TreePath) : pathnameOf path = urlOf path :=
  Pathname.joinSlashes_eq (urlNames path)

/-- Two directories have one pathname if the names on the way to them that count are the same. -/
theorem pathnameOf_eq_iff {path other : TreePath} (named : path.WellNamed)
    (otherNamed : other.WellNamed) :
    pathnameOf path = pathnameOf other ↔ urlNames path = urlNames other := by
  have components : ∀ {path : TreePath}, path.WellNamed →
      ∀ name ∈ urlNames path, IsComponent name :=
    fun named name member => named name (List.mem_of_mem_filter member)
  exact Pathname.joinSlashes_inj_iff (components named) (components otherNamed)

variable {root : String} {entries : List (String × FileTree)}

/-- Every directory that can be reached is among those of the walk. -/
theorem IsReached.exists_mem_walk {tree : FileTree} {path : TreePath}
    (isReached : IsReached (.present tree) path) :
    ∃ directory ∈ walk tree, directory.path = path := by
  obtain ⟨⟨entries, stands⟩, notIgnored⟩ := isReached
  have member : Reached.ofEntries ([] ++ path) entries ∈ reached [] tree :=
    mem_reached_of_find stands notIgnored
  exact ⟨_, mem_walk.mpr member, rfl⟩

/-- The names on the way to a directory that is reached are path components. -/
theorem IsReached.wellNamed {tree : FileTree} (named : tree.WellNamed) {path : TreePath}
    (isReached : IsReached (.present tree) path) : path.WellNamed := by
  obtain ⟨directory, member, rfl⟩ := isReached.exists_mem_walk
  exact path_of_mem_reached (fun _ member => absurd member List.not_mem_nil) named _
    (mem_walk.mp member)

theorem describes_of_mem_walk {tree : FileTree} (distinct : tree.Distinct) {directory : Reached}
    (member : directory ∈ walk tree) : directory.Describes (.present tree) :=
  describes_of_mem_reached distinct (mem_walk.mp member)

/-- Discovery succeeds exactly if the routes on disk are unambiguous. -/
theorem discover_isOk_iff (named : (FileTree.directory entries).WellNamed)
    (distinct : (FileTree.directory entries).Distinct) :
    (∃ routes, discover root (.present (.directory entries)) = .ok routes)
      ↔ Unambiguous (.present (.directory entries)) := by
  simp only [discover_eq_ok_iff, exists_and_left, exists_eq', and_true]
  rw [nodup_routesOf_iff (nodup_walk distinct)]
  constructor
  · rintro ⟨oneKind, onePathname⟩
    refine ⟨fun path isReached both => ?_, fun path other isRoute isOther same => ?_⟩
    · obtain ⟨directory, member, rfl⟩ := isReached.exists_mem_walk
      have describes := describes_of_mem_walk distinct member
      have single := oneKind directory member
      rw [describes.page.mpr both.1, describes.handler.mpr both.2] at single
      cases single
    · obtain ⟨first, isFirst, rfl⟩ := isRoute.reached.exists_mem_walk
      obtain ⟨second, isSecond, rfl⟩ := isOther.reached.exists_mem_walk
      have alike := (pathnameOf_eq_iff (isRoute.reached.wellNamed named)
        (isOther.reached.wellNamed named)).mpr same
      exact congrArg Reached.path (onePathname first isFirst
        ((describes_of_mem_walk distinct isFirst).isRoute_iff.mpr isRoute) second isSecond
        ((describes_of_mem_walk distinct isSecond).isRoute_iff.mpr isOther) alike)
  · intro unambiguous
    refine ⟨fun directory member => ?_, fun first isFirst has second isSecond hasToo alike => ?_⟩
    · have describes := describes_of_mem_walk distinct member
      have single := unambiguous.oneKind directory.path describes.isReached
      rw [← describes.page, ← describes.handler] at single
      exact Bool.eq_false_iff.mpr fun both => single (Bool.and_eq_true_iff.mp both)
    · have isRoute := (describes_of_mem_walk distinct isFirst).isRoute_iff.mp has
      have isOther := (describes_of_mem_walk distinct isSecond).isRoute_iff.mp hasToo
      refine List.inj_on_of_nodup_map (nodup_walk distinct) isFirst isSecond ?_
      exact unambiguous.oneDirectory _ _ isRoute isOther ((pathnameOf_eq_iff
        (isRoute.reached.wellNamed named) (isOther.reached.wellNamed named)).mp alike)

/-- What is discovered is the routes on disk, each by its pathname. -/
theorem mem_routes_iff (distinct : (FileTree.directory entries).Distinct)
    {routes : Bindings FoundRoute}
    (found : discover root (.present (.directory entries)) = .ok routes) {routeId : String}
    {route : FoundRoute} :
    (routeId, route) ∈ routes
      ↔ IsRoute (.present (.directory entries)) route.path ∧ routeId = pathnameOf route.path
        ∧ (route.isPage = true
          ↔ (Place.present (.directory entries)).IsFile (route.path ++ [pageFile])) := by
  obtain ⟨-, -, rfl⟩ := discover_eq_ok_iff.mp found
  rw [mem_routesOf_iff]
  constructor
  · rintro ⟨directory, member, has, rfl, rfl⟩
    have describes := describes_of_mem_walk distinct member
    exact ⟨describes.isRoute_iff.mp has, rfl, describes.page⟩
  · rintro ⟨isRoute, rfl, page⟩
    obtain ⟨directory, member, same⟩ := isRoute.reached.exists_mem_walk
    have describes := describes_of_mem_walk distinct member
    refine ⟨directory, member, ?_, ?_, ?_⟩
    · exact describes.isRoute_iff.mpr (same ▸ isRoute)
    · rw [same]
    · obtain ⟨path, isPage⟩ := route
      obtain rfl : directory.path = path := same
      rw [FoundRoute.mk.injEq]
      exact ⟨rfl, Bool.eq_iff_iff.mpr (page.trans describes.page.symm)⟩

theorem lookup?_of_isRoute (distinct : (FileTree.directory entries).Distinct)
    {routes : Bindings FoundRoute}
    (found : discover root (.present (.directory entries)) = .ok routes) {path : TreePath}
    (isRoute : IsRoute (.present (.directory entries)) path) {isPage : Bool}
    (page : isPage = true
      ↔ (Place.present (.directory entries)).IsFile (path ++ [pageFile])) :
    routes.lookup? (urlOf path) = some ⟨path, isPage⟩ := by
  have member : (urlOf path, ⟨path, isPage⟩) ∈ routes :=
    (mem_routes_iff distinct found).mpr ⟨isRoute, (pathnameOf_eq path).symm, page⟩
  obtain ⟨-, nodup, rfl⟩ := discover_eq_ok_iff.mp found
  exact Bindings.lookup?_of_mem nodup member

/-- The pathnames of the routes that are discovered, in order, each once. -/
theorem pairwise_names_sorted {routes : Bindings FoundRoute}
    (found : discover root (.present (.directory entries)) = .ok routes) :
    routes.sorted.names.Pairwise (· < ·) := by
  obtain ⟨-, nodup, rfl⟩ := discover_eq_ok_iff.mp found
  exact Bindings.pairwise_names_sorted nodup

/-- The pathnames of the routes that are discovered are the URLs of those on disk. -/
theorem mem_names_sorted_iff (distinct : (FileTree.directory entries).Distinct)
    {routes : Bindings FoundRoute}
    (found : discover root (.present (.directory entries)) = .ok routes) {routeId : String} :
    routeId ∈ routes.sorted.names
      ↔ ∃ path, IsRoute (.present (.directory entries)) path ∧ routeId = urlOf path := by
  rw [Bindings.names, List.mem_map]
  constructor
  · rintro ⟨⟨_, route⟩, member, rfl⟩
    obtain ⟨isRoute, same, -⟩ :=
      (mem_routes_iff distinct found).mp (List.mem_mergeSort.mp member)
    exact ⟨route.path, isRoute, same.trans (pathnameOf_eq route.path)⟩
  · rintro ⟨path, isRoute, rfl⟩
    classical
    have known := lookup?_of_isRoute distinct found isRoute decide_eq_true_iff
    exact ⟨_, List.mem_mergeSort.mpr (Bindings.mem_of_lookup? known), rfl⟩

/-- What goes wrong in discovery is a fault in the structure of the directory. -/
theorem discover_failsWith (root : String) (entries : List (String × FileTree)) :
    Except.FailsWith (fun raised => ∃ fault, raised = .failure (.structural fault))
      (discover root (.present (.directory entries))) := by
  rintro raised failed
  rw [discover_eq_walk] at failed
  cases among : routesAmong root [] (walk (.directory entries)) with
  | ok routes =>
    rw [among] at failed
    cases failed
  | error failure =>
    obtain ⟨fault, rfl⟩ := routesAmong_failsWith root [] _ failure among
    rw [among] at failed
    cases failed
    exact ⟨fault, rfl⟩

end AppDirectory

end Prerender
