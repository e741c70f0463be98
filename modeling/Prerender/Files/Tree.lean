import Prerender.Value

/-!
# Trees of files

A tree of directories and files, of which only the modules matter: a file is what executing it
does. Paths are lists of names, from the root of the tree downwards. A file has nothing below it,
so it obstructs every path that leads through it (`Place`).

`write`, `makeDirectory` and `delete` change what stands below a root, of which there may be
nothing at first; they fail where a file or a directory is in the way.
-/

namespace Prerender

/-- What executing a file does: the names it binds, and what it raises at last. -/
structure ModuleSource where
  exports : Bindings Value
  raised : Option Raised

/-- A file or a directory. -/
inductive FileTree where
  | file (source : ModuleSource)
  | directory (entries : List (String × FileTree))

/-- The way to a file or directory, by names. -/
abbrev TreePath := List String

namespace TreePath

/-- A path below a root as it is shown. -/
def shown (root : String) (path : TreePath) : String :=
  "/".intercalate (root :: path)

/-- Whether a path comes before another one or is the same. The first names that differ decide; the
path of a directory comes before those below it. -/
def before : TreePath → TreePath → Bool
  | [], _ => true
  | _ :: _, [] => false
  | a :: as, b :: bs => if a = b then before as bs else a < b

end TreePath

namespace FileTree

/-- Whether a tree is a file. -/
def isFile : FileTree → Bool
  | .file _ => true
  | .directory _ => false

/-- Whether a tree is a directory. -/
def isDirectory (tree : FileTree) : Bool :=
  !tree.isFile

end FileTree

/-- What stands at a path. -/
inductive Place where
  | missing
  /-- Nothing, and nothing can: a file stands on the way. -/
  | obstructed
  | present (tree : FileTree)

namespace FileTree

/-- What stands at a path below a tree. -/
def find : FileTree → TreePath → Place
  | tree, [] => .present tree
  | .file _, _ :: _ => .obstructed
  | .directory entries, name :: rest =>
    match Bindings.lookup? entries name with
    | some tree => tree.find rest
    | none => .missing

end FileTree

namespace Place

/-- What stands at a path below a place. -/
def find : Place → TreePath → Place
  | .present tree, path => tree.find path
  | place, _ => place

/-- The place of a tree that may be missing. -/
def ofTree? : Option FileTree → Place
  | some tree => .present tree
  | none => .missing

end Place

namespace FileTree

/-- Changes what stands at a path. Directories on the way are made where they are missing; a file
on the way gives way to a directory. -/
def change (edit : Option FileTree → FileTree) : Option FileTree → TreePath → FileTree
  | tree, [] => edit tree
  | some (.directory entries), name :: rest =>
    .directory (Bindings.assign entries name (change edit (Bindings.lookup? entries name) rest))
  | _, name :: rest => .directory [(name, change edit none rest)]

/-- Makes a directory at a path, and those on the way to it, unless they are there. -/
def makeDirectory (root : String) (tree : Option FileTree) (path : TreePath) :
    Except Crash FileTree :=
  match (Place.ofTree? tree).find path with
  | .present (.file _) => .error (.fileExists (path.shown root))
  | .obstructed => .error (.notADirectory (path.shown root))
  | _ => .ok (change (fun there => there.getD (.directory [])) tree path)

/-- Puts a file at a path. The directories on the way are made if need be. -/
def write (root : String) (tree : Option FileTree) (path : TreePath) (source : ModuleSource) :
    Except Crash FileTree := do
  let tree ← if path.isEmpty then pure tree else some <$> makeDirectory root tree path.dropLast
  match (Place.ofTree? tree).find path with
  | .present (.directory _) => throw (.isADirectory (path.shown root))
  | _ => return change (fun _ => .file source) tree path

/-- The tree without what stands at a path. -/
def without : FileTree → TreePath → Option FileTree
  | _, [] => none
  | .file source, _ :: _ => some (.file source)
  | .directory entries, name :: rest =>
    match Bindings.lookup? entries name with
    | none => some (.directory entries)
    | some tree =>
      match tree.without rest with
      | none => some (.directory (Bindings.erase entries name))
      | some left => some (.directory (Bindings.assign entries name left))

/-- Takes away the file or directory at a path. -/
def delete (root : String) (tree : Option FileTree) (path : TreePath) :
    Except Crash (Option FileTree) :=
  match (Place.ofTree? tree).find path with
  | .missing => .error (.noSuchPath (path.shown root))
  | .obstructed => .error (.notADirectory (path.shown root))
  | .present _ => .ok (tree.bind (·.without path))

end FileTree

end Prerender
