import Prerender.Files.Modules

/-!
# Pages directories

In a pages directory every module is a page, named by its path without the suffix `.py`; a module
named `index` stands for its directory. Names that start with `_` or a dot, and everything in the
top directory `api`, are no pages.

`discover` gives the pages of a directory by their pathnames, which are their ids. It goes by
names alone, so a directory with a name that ends in `.py` counts as a page until it is loaded.
-/

namespace Prerender

namespace PagesDirectory

/-- The suffix of modules. -/
def moduleSuffix : List Char := ['.', 'p', 'y']

/-- Whether a name is that of a module. -/
def isModuleName (name : String) : Bool :=
  moduleSuffix.isSuffixOf name.toList

/-- The name of a module without its suffix. -/
def stem (name : String) : String :=
  let chars := name.toList
  if chars = moduleSuffix then name
  else String.ofList (chars.take (chars.length - moduleSuffix.length))

mutual

/-- The paths of all files and directories with the name of a module, below a tree at a path. -/
def moduleNames (path : TreePath) : FileTree → List TreePath
  | .file _ => []
  | .directory entries => moduleNamesBelow path entries
termination_by structural tree => tree

/-- The paths with the name of a module among the entries of a directory and below them. -/
def moduleNamesBelow (path : TreePath) : List (String × FileTree) → List TreePath
  | [] => []
  | (name, tree) :: rest =>
    let here := path ++ [name]
    (if isModuleName name then [here] else []) ++ moduleNames here tree
      ++ moduleNamesBelow path rest
termination_by structural entries => entries

end

/-- The names on the way to a module, its own one without the suffix. -/
def parts (file : TreePath) : List String :=
  file.dropLast ++ [stem (file.getLastD "")]

/-- Whether the names on the way to a module are those of a page. -/
def isPage (parts : List String) : Bool :=
  !(1 < parts.length && parts.head? = some "api") && !parts.any (Text.startsWithAny ['_', '.'])

/-- The pathname of a page. -/
def pathnameOf (parts : List String) : String :=
  Pathname.joinSlashes (if parts.getLast? = some "index" then parts.dropLast else parts)

/-- The pages among some paths, behind those already found. Two of one pathname are an error. -/
def pagesAmong (root : String) (found : Bindings TreePath) :
    List TreePath → Except Failure (Bindings TreePath)
  | [] => .ok found
  | file :: rest =>
    if isPage (parts file) then
      let pathname := pathnameOf (parts file)
      match found.lookup? pathname with
      | some first =>
        .error (.structural (.duplicatePage pathname (first.shown root) (file.shown root)))
      | none => pagesAmong root (found.assign pathname file) rest
    else pagesAmong root found rest

/-- The pages of a directory by their pathnames, in the order of their paths. -/
def discover (root : String) (here : Place) : Except Raised (Bindings TreePath) :=
  let files := match here with
    | .present tree => moduleNames [] tree
    | _ => []
  (pagesAmong root [] (files.mergeSort TreePath.before)).mapError .failure

/-- Loads the page of an id. -/
def load (root : String) (here : Place) (routeId : String) : Loading TreePath Route := do
  let pages ← Loading.discovered (discover root here)
  match pages.lookup? routeId with
  | none => Loading.fail (.unknownPage routeId root)
  | some file =>
    match ← Loading.module root here file with
    | none => Loading.fail (.missingPage routeId)
    | some module => return .listed ⟨routeId, routeId, module⟩

/-- The ids of all pages, ordered. -/
def routeIds (root : String) (here : Place) : Loading TreePath (List String) := do
  let pages ← Loading.discovered (discover root here)
  return pages.sorted.names

/-- What a loader remembers of a pages directory at first. The directory has to exist. -/
def openAt (root : String) (here : Place) : Except Crash (LoaderState TreePath) :=
  match here with
  | .present (.directory _) => .ok {}
  | _ => .error (.noPagesDirectory root)

/-- The loader of a pages directory, as the directory is now. -/
def loader (root : String) (here : Place) : Loader (LoaderState TreePath) where
  load routeId state := (load root here routeId).outcome state

end PagesDirectory

end Prerender
