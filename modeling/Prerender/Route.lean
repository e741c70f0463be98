import Prerender.Segment

/-!
# Route definitions

A route is a handler (one module behind a pathname), a page (a tree of layouts that ends in a page
module) or a listed page (one module that lists its own paths). A loader may also hand over an
object of no known kind; resolving it is an error.
-/

namespace Prerender

/-- A loaded module and the file it came from. -/
structure LoadedModule where
  path : Option String
  exports : Value

/-- The name of the primary branch of a tree node. -/
def primaryBranch : String := "children"

/-- The segment name of the leaf that holds a page module. -/
def pageSegment : String := "__PAGE__"

/-- A level of a page tree, with its named branches. -/
structure TreeNode where
  segment : String
  layout : Option LoadedModule
  page : Option LoadedModule
  branches : List (String × TreeNode)

/-- A step from the root of a route towards its leaf: a path component, and the module behind
it. -/
structure RouteStep where
  name : String
  backing : Option LoadedModule

namespace TreeNode

/-- The module behind a level: its layout, or else its page. -/
def module? (node : TreeNode) : Option LoadedModule :=
  node.layout.or node.page

mutual

/-- The steps from a node along the primary branches to the leaf. -/
def primarySteps : TreeNode → List RouteStep
  | ⟨segment, layout, page, branches⟩ =>
    ⟨segment, layout.or page⟩ :: primaryStepsBelow branches
termination_by structural node => node

/-- The steps of the primary branch among some branches. -/
def primaryStepsBelow : List (String × TreeNode) → List RouteStep
  | [] => []
  | (name, node) :: rest =>
    if name = primaryBranch then primarySteps node else primaryStepsBelow rest
termination_by structural branches => branches

end

end TreeNode

/-- A route handler: one module behind a pathname. -/
structure Handler where
  routeId : String
  pathname : String
  module : LoadedModule

/-- A page: a tree of layouts that ends in a page module. -/
structure Page where
  routeId : String
  pathname : String
  root : TreeNode

/-- A page whose module lists its own paths. -/
structure ListedPage where
  routeId : String
  pathname : String
  module : LoadedModule

/-- A route definition. -/
inductive Route where
  | handler (route : Handler)
  | page (route : Page)
  | listed (route : ListedPage)
  /-- An object of no known kind, with the pathname that it states. -/
  | unknown (pathname : String) (object : Value)

namespace Route

/-- The pathname of a route. -/
def pathname : Route → String
  | .handler route => route.pathname
  | .page route => route.pathname
  | .listed route => route.pathname
  | .unknown pathname _ => pathname

/-- The page that a route of any kind is when it is taken for one that lists its paths. Pages of
a tree and unknown objects have no module that could list them. -/
def asListed : Route → Except Crash ListedPage
  | .handler ⟨routeId, pathname, module⟩ => .ok ⟨routeId, pathname, module⟩
  | .page _ => .error (.noAttribute "'TreeRoute' object" "module")
  | .listed route => .ok route
  | .unknown _ object => .error (object.lacking "module")

end Route

end Prerender
