import Prerender.Files.Modules

/-!
# App directories

In an app directory every directory is a path component, and those that hold a `page.py` or a
`route.py` are routes. A directory in round brackets groups others without being part of their
URL; one that starts with `@` is a parallel branch of its parent; one that starts with `_` or a
dot is ignored.

`discover` gives the routes of a directory by their pathnames, which are their ids. Loading a page
executes its module and the layouts and branches of the directories above it, from the leaf to the
root.
-/

namespace Prerender

namespace AppDirectory

/-- The file of a page. -/
def pageFile : String := "page.py"

/-- The file of a layout. -/
def layoutFile : String := "layout.py"

/-- The file of a route handler. -/
def handlerFile : String := "route.py"

/-- Whether a directory groups others without being part of their URL: round brackets around at
least one character, on one line. One line feed at the end is not looked at. -/
def isGroup (name : String) : Bool :=
  match Text.between? ['('] [')'] (Text.dropFinalNewline name.toList) with
  | some inner => inner ≠ [] && !inner.contains '\n'
  | none => false

/-- Whether a directory holds no routes of its own. -/
def isIgnored (name : String) : Bool :=
  Text.startsWithAny ['_', '.', '@'] name

/-- The pathname of a directory: the names on the way to it, groups left out. -/
def pathnameOf (path : TreePath) : String :=
  Pathname.joinSlashes (path.filter fun name => !isGroup name)

/-- Whether there is a file of that name among some entries. -/
def holdsFile (entries : List (String × FileTree)) (name : String) : Bool :=
  ((Bindings.lookup? entries name).map FileTree.isFile).getD false

/-- A directory that can be reached from the root, and which files of a route it holds. -/
structure Reached where
  path : TreePath
  hasPage : Bool
  hasHandler : Bool
deriving DecidableEq, Repr

mutual

/-- The directories that can be reached from a tree at a path, that one included. -/
def reached (path : TreePath) : FileTree → List Reached
  | .file _ => []
  | .directory entries =>
    ⟨path, holdsFile entries pageFile, holdsFile entries handlerFile⟩
      :: reachedBelow path entries
termination_by structural tree => tree

/-- The directories that can be reached from the entries of a directory. -/
def reachedBelow (path : TreePath) : List (String × FileTree) → List Reached
  | [] => []
  | (name, tree) :: rest =>
    (if isIgnored name then [] else reached (path ++ [name]) tree) ++ reachedBelow path rest
termination_by structural entries => entries

end

/-- A route of an app directory: the directory it comes from, and whether it is a page. -/
structure FoundRoute where
  path : TreePath
  isPage : Bool
deriving DecidableEq, Repr

/-- The routes among some directories, behind those already found. A directory that is both a page
and a handler, and two directories with one pathname, are errors. -/
def routesAmong (root : String) (found : Bindings FoundRoute) :
    List Reached → Except Failure (Bindings FoundRoute)
  | [] => .ok found
  | directory :: rest =>
    if directory.hasPage && directory.hasHandler then
      .error (.structural (.ambiguousDirectory (directory.path.shown root)))
    else if directory.hasPage || directory.hasHandler then
      let pathname := pathnameOf directory.path
      match found.lookup? pathname with
      | some first =>
        .error (.structural
          (.duplicateRoute pathname (first.path.shown root) (directory.path.shown root)))
      | none =>
        routesAmong root (found.assign pathname ⟨directory.path, directory.hasPage⟩) rest
    else routesAmong root found rest

/-- What listing a directory gives: its entries, unless there is no directory. -/
def listDirectory (root : String) (here : Place) (path : TreePath) :
    Except Crash (List (String × FileTree)) :=
  match here.find path with
  | .present (.directory entries) => .ok entries
  | .present (.file _) => .error (.notADirectory (path.shown root))
  | .obstructed => .error (.notADirectory (path.shown root))
  | .missing => .error (.noSuchPath (path.shown root))

/-- The routes of a directory by their pathnames, in the order of their paths. -/
def discover (root : String) (here : Place) : Except Raised (Bindings FoundRoute) := do
  let entries ← (listDirectory root here []).mapError .crash
  let directories := (reached [] (.directory entries)).mergeSort fun a b => a.path.before b.path
  (routesAmong root [] directories).mapError .failure

/-- The directories on the way to a path, from the root on. -/
def levels (path : TreePath) : List TreePath :=
  (List.range (path.length + 1)).map path.take

/-- The leaf of a page tree. -/
def leaf (page : Option LoadedModule) : TreeNode :=
  ⟨pageSegment, none, page, []⟩

/-- Loads a parallel branch of a directory. -/
def loadBranch (root : String) (here : Place) (path : TreePath) (name : String) :
    Loading FoundRoute (String × TreeNode) := do
  let page ← Loading.module root here (path ++ [name, pageFile])
  let layout ← Loading.module root here (path ++ [name, layoutFile])
  let branches := if page.isSome then [(primaryBranch, leaf page)] else []
  return (name, ⟨name, layout, none, branches⟩)

/-- Loads the parallel branches of a directory, in the order of their names. -/
def loadBranches (root : String) (here : Place) (path : TreePath) :
    Loading FoundRoute (List (String × TreeNode)) := do
  match listDirectory root here path with
  | .error crash => throw (.crash crash)
  | .ok entries =>
    let branches := (Bindings.sorted entries).filter fun (name, entry) =>
      entry.isDirectory && Text.startsWithAny ['@'] name
    branches.mapM fun (name, _) => loadBranch root here path name

/-- Loads the level of a directory, above the level below it. -/
def loadLevel (root : String) (here : Place) (below : TreeNode) (path : TreePath) :
    Loading FoundRoute TreeNode := do
  let layout ← Loading.module root here (path ++ [layoutFile])
  let branches ← loadBranches root here path
  return ⟨path.getLastD "", layout, none, (primaryBranch, below) :: branches⟩

/-- Loads the tree of a page, from the leaf to the root. -/
def loadTree (root : String) (here : Place) (path : TreePath) :
    Loading FoundRoute TreeNode := do
  let page ← Loading.module root here (path ++ [pageFile])
  (levels path).reverse.foldlM (loadLevel root here) (leaf page)

/-- Loads the route of an id. -/
def load (root : String) (here : Place) (routeId : String) :
    Loading FoundRoute Route := do
  let routes ← Loading.discovered (discover root here)
  match routes.lookup? routeId with
  | none => Loading.fail (.unknownRoute routeId root)
  | some route =>
    if route.isPage then
      let node ← loadTree root here route.path
      return .page ⟨routeId, pathnameOf route.path, node⟩
    else
      match ← Loading.module root here (route.path ++ [handlerFile]) with
      | none => Loading.fail (.missingHandler routeId)
      | some module => return .handler ⟨routeId, pathnameOf route.path, module⟩

/-- The ids of all routes, ordered. -/
def routeIds (root : String) (here : Place) : Loading FoundRoute (List String) := do
  let routes ← Loading.discovered (discover root here)
  return routes.sorted.names

/-- What a loader remembers of an app directory at first. The directory has to exist. -/
def openAt (root : String) (here : Place) : Except Crash (LoaderState FoundRoute) :=
  match here with
  | .present (.directory _) => .ok {}
  | _ => .error (.noAppDirectory root)

/-- The loader of an app directory, as the directory is now. -/
def loader (root : String) (here : Place) : Loader (LoaderState FoundRoute) where
  load routeId state := (load root here routeId).outcome state

end AppDirectory

end Prerender
