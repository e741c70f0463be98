import Prerender.Text.Quoted

/-!
# Causes of failures

What can be wrong with a build is data: each cause is a constructor, and `Reason.message` gives
its wording. The causes are grouped by what is at fault: the structure of a route, two sources of
one parameter, a segment's generator, a page's path function, or the settings.

User code may raise failures of its own; their text is theirs (`Reason.stated`).
-/

namespace Prerender

open Text (quote quoteNames bracketed)

/-- The export of a module that generates parameters for its segment. -/
def generatorName : String := "generate_static_params"

/-- The export of a page module that lists the paths of its page. -/
def pathsFunctionName : String := "get_static_paths"

/-- A route, or the directory it comes from, does not hold together. Segments are given by their
descriptions. -/
inductive StructureFault where
  /-- A pathname without a single component. -/
  | noComponents (routeId : String)
  /-- A component in brackets that declares no parameter. -/
  | invalidComponent (component routeId : String)
  /-- A definition that has no segments to walk. -/
  | noSegmentChain (kind : String)
  /-- A dynamic segment without a parameter. -/
  | unnamedParam (segment : String)
  /-- A generator was asked of a segment that has none. -/
  | noGenerator (segment : String)
  /-- A component of a page's pathname in brackets that declares no parameter. -/
  | invalidPageComponent (component pathname : String)
  /-- Loading a route raised an exception. -/
  | loadFailed (routeId type text : String)
  /-- A directory that is both a page and a route handler. -/
  | ambiguousDirectory (directory : String)
  /-- Two directories that define one route. -/
  | duplicateRoute (pathname first second : String)
  /-- Executing a module raised an exception. -/
  | importFailed (file type text : String)
  /-- No route of that id in the directory. -/
  | unknownRoute (routeId root : String)
  /-- The file of a route handler is gone. -/
  | missingHandler (routeId : String)
  /-- Two files that define one page. -/
  | duplicatePage (pathname first second : String)
  /-- No page of that id in the directory. -/
  | unknownPage (routeId root : String)
  /-- What a page was discovered by is not a file. -/
  | missingPage (routeId : String)
deriving DecidableEq, Repr

/-- Two sources claim one parameter. Segments are given by their descriptions; `key` is the name
already quoted. -/
inductive ConflictFault where
  /-- Two segments of a chain declare the parameter. -/
  | declaredTwice (param first second : String)
  /-- Two components of a page's pathname declare the parameter. -/
  | declaredTwiceByPage (param pathname : String)
  /-- A dynamic segment generated a parameter that an ancestor has resolved. -/
  | alreadyResolved (segment key first : String)
  /-- A dynamic segment generated a parameter that belongs to another segment. -/
  | foreignParam (segment key owner : String)
  /-- A generator contradicts a value resolved before it. -/
  | contradiction (segment param received resolved first : String)
deriving DecidableEq, Repr

/-- A segment's generator failed or returned something malformed. Segments are given by their
names; values that were received are already written out. -/
inductive GeneratorFault where
  | missingValue (param segment : String)
  | notText (param segment received : String)
  | notTexts (param segment received : String)
  | notList (segment type : String)
  | raised (segment text : String)
  | notMapping (segment type : String)
  /-- A key that is not the segment's own parameter. -/
  | unknownKey (segment key expected : String)
  /-- A key that no segment of the chain declares. -/
  | unownedKey (segment key : String) (expected : List String)
deriving DecidableEq, Repr

/-- A page's path function failed or returned something malformed. Values that were received are
already written out. -/
inductive PageFault where
  | raised (text : String)
  | notMapping (type : String)
  | extraKeys (keys : List String)
  | invalidFallback (received : String)
  | notList (type : String)
  | invalidEntry (type : String)
  | unmatchedUrl (url : String)
  | extraEntryKeys (keys : List String)
  | noParams (entry : String)
  | unknownLocale (locale : String)
  | missingValue (param : String)
  | notText (param received : String)
  | notTexts (param received : String)
deriving DecidableEq, Repr

/-- A setting of the resolver that is not accepted. Values are already written out. -/
inductive ConfigFault where
  | invalidPpr (received : String)
  | concurrencyType (type : String)
  | concurrencyRange (received : String)
  | invalidLocales (received : String)
  | unknownDefaultLocale (received locales : String)
  | missingDefaultLocale
deriving DecidableEq, Repr

/-- The cause of a failure. -/
inductive Reason where
  /-- What user code says. -/
  | stated (text : String)
  | structural (fault : StructureFault)
  | conflicting (fault : ConflictFault)
  | generating (fault : GeneratorFault)
  | listing (pathname : String) (fault : PageFault)
  | configuring (fault : ConfigFault)
deriving DecidableEq, Repr

/-- The wording of a structural fault. -/
def StructureFault.message : StructureFault → String
  | .noComponents routeId => s!"Route {quote routeId}: expected at least one segment"
  | .invalidComponent component routeId =>
    s!"Dynamic segment {quote component} in route {quote routeId} has no valid parameter name"
  | .noSegmentChain kind => s!"Expected a route handler or page tree, got {kind}"
  | .unnamedParam segment => s!"Dynamic segment {segment} has no parameter name"
  | .noGenerator segment => s!"Segment {segment} has no {generatorName} to call"
  | .invalidPageComponent component pathname =>
    s!"Dynamic segment {quote component} of {quote pathname} has no parameter name"
  | .loadFailed routeId type text => s!"Could not load route {quote routeId}: {type}: {text}"
  | .ambiguousDirectory directory => s!"Conflicting page.py and route.py in {directory}"
  | .duplicateRoute pathname first second =>
    s!"Route {quote pathname} is defined by both {first} and {second}"
  | .importFailed file type text => s!"Failed to import {file}: {type}: {text}"
  | .unknownRoute routeId root => s!"No route {quote routeId} under {root}"
  | .missingHandler routeId => s!"Could not import route handler for {quote routeId}"
  | .duplicatePage pathname first second =>
    s!"Page {quote pathname} is defined by both {first} and {second}"
  | .unknownPage routeId root => s!"No page {quote routeId} under {root}"
  | .missingPage routeId => s!"Could not import page module for {quote routeId}"

/-- The wording of a conflict. -/
def ConflictFault.message : ConflictFault → String
  | .declaredTwice param first second =>
    s!"Parameter {quote param} is declared by both {first} and {second}"
  | .declaredTwiceByPage param pathname =>
    s!"Parameter {quote param} is declared twice in {quote pathname}"
  | .alreadyResolved segment key first =>
    s!"{generatorName} for {segment} returned parameter {key}, " ++
      s!"which is already resolved by {first}"
  | .foreignParam segment key owner =>
    s!"{generatorName} for {segment} returned parameter {key}, which belongs to {owner}"
  | .contradiction segment param received resolved first =>
    s!"{generatorName} for {segment} returned {param}={received}, " ++
      s!"conflicting with {resolved} from {first}"

/-- The wording of a generator's fault. -/
def GeneratorFault.message : GeneratorFault → String
  | .missingValue param segment =>
    s!"A required parameter ({param}) was not provided " ++
      s!"in {generatorName} for segment {quote segment}"
  | .notText param segment received =>
    s!"A required parameter ({param}) was not provided as a string " ++
      s!"in {generatorName} for segment {quote segment}, received {received}"
  | .notTexts param segment received =>
    s!"A required parameter ({param}) was not provided as a non-empty list of strings " ++
      s!"in {generatorName} for segment {quote segment}, received {received}"
  | .notList segment type =>
    s!"{generatorName} for segment {quote segment} must return a list of params, " ++
      s!"received {type}"
  | .raised segment text => s!"{generatorName} failed for segment {quote segment}: {text}"
  | .notMapping segment type =>
    s!"{generatorName} for segment {quote segment} returned {type}, " ++
      "expected a mapping of params"
  | .unknownKey segment key expected =>
    s!"{generatorName} for segment {quote segment} returned unknown parameter {key}, " ++
      s!"expected only {quote expected}"
  | .unownedKey segment key expected =>
    s!"{generatorName} for segment {quote segment} returned unknown parameter {key}, " ++
      s!"expected one of {quoteNames expected}"

/-- The wording of a path function's fault, behind the name of its page. -/
def PageFault.message : PageFault → String
  | .raised text => s!"failed: {text}"
  | .notMapping type => s!"must return a mapping with 'paths' and 'fallback', received {type}"
  | .extraKeys keys => s!"returned extra keys {bracketed keys}, expected 'paths' and 'fallback'"
  | .invalidFallback received =>
    s!"must return fallback as True, False or 'blocking', received {received}"
  | .notList type => s!"must return paths as a list, received {type}"
  | .invalidEntry type => s!"returned a {type} path, expected str or mapping"
  | .unmatchedUrl url => s!"returned path {quote url}, which does not match the page"
  | .extraEntryKeys keys => s!"returned a path with extra keys {bracketed keys}"
  | .noParams entry => s!"returned a path without a 'params' mapping: {entry}"
  | .unknownLocale locale => s!"returned a path with unknown locale {locale}"
  | .missingValue param => s!"returned params without {quote param}"
  | .notText param received => s!"must provide {quote param} as a string, received {received}"
  | .notTexts param received =>
    s!"must provide {quote param} as a non-empty list of strings, received {received}"

/-- The wording of a fault in the settings. -/
def ConfigFault.message : ConfigFault → String
  | .invalidPpr received => s!"ppr must be True, False, or 'incremental', got {received}"
  | .concurrencyType type => s!"concurrency must be an int, got {type}"
  | .concurrencyRange received => s!"concurrency must be at least 1, got {received}"
  | .invalidLocales received =>
    s!"locales must be a tuple of non-empty strings, got {received}"
  | .unknownDefaultLocale received locales =>
    s!"default_locale {received} is not one of {locales}"
  | .missingDefaultLocale => "default_locale is required when locales are configured"

/-- The wording of a cause. -/
def Reason.message : Reason → String
  | .stated text => text
  | .structural fault => fault.message
  | .conflicting fault => fault.message
  | .generating fault => fault.message
  | .listing pathname fault =>
    s!"{pathsFunctionName} for page {quote pathname} {fault.message}"
  | .configuring fault => fault.message

end Prerender
