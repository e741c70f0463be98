import Prerender.Value

/-!
# Segment configuration

The settings that a module may declare for its segment, each a type of its own. `ofValue?` reads
a setting from what the module binds to its name and refuses every other value; `toValue` is the
value it is read from. `SegmentConfig.parse?` reads all of them.

A setting bound to nothing counts as not declared. One setting of the wrong shape makes the whole
configuration void, and so does a module that declares none.
-/

namespace Prerender

/-- When a rendered page has to be made anew. -/
inductive Revalidate where
  /-- It is kept as it is. -/
  | never
  /-- After that many seconds. -/
  | after (seconds : Number)
deriving DecidableEq, Repr

/-- How a segment asks to be rendered. -/
inductive Rendering where
  | auto
  | forceDynamic
  | forceStatic
  /-- Statically; depending on a request is an error. -/
  | error
deriving DecidableEq, Repr

/-- How a segment asks fetched data to be cached. -/
inductive FetchCache where
  | auto
  | defaultCache
  | onlyCache
  | forceCache
  | forceNoStore
  | defaultNoStore
  | onlyNoStore
deriving DecidableEq, Repr

/-- Where a segment asks to be rendered. -/
inductive Region where
  | one (name : String)
  | several (names : List String)
deriving DecidableEq, Repr

/-- A number of seconds, zero or more. -/
def Value.seconds? : Value → Option Number
  | .number value => if value.isNonnegative then some value else Option.none
  | _ => Option.none

/-- A truth value. -/
def Value.flag? : Value → Option Bool
  | .bool value => some value
  | _ => Option.none

namespace Revalidate

/-- Reads the truth value false or a number of seconds. -/
def ofValue? : Value → Option Revalidate
  | .bool false => some .never
  | value => value.seconds?.map .after

/-- The value that a setting is read from. -/
def toValue : Revalidate → Value
  | .never => .bool false
  | .after seconds => .number seconds

end Revalidate

namespace Rendering

/-- The name of a way of rendering. -/
def name : Rendering → String
  | .auto => "auto"
  | .forceDynamic => "force-dynamic"
  | .forceStatic => "force-static"
  | .error => "error"

/-- All ways of rendering. -/
def all : List Rendering := [.auto, .forceDynamic, .forceStatic, .error]

/-- Reads a name. -/
def ofValue? : Value → Option Rendering
  | .text content => all.find? (·.name = content)
  | _ => none

/-- The value that a way of rendering is read from. -/
def toValue (mode : Rendering) : Value :=
  .text mode.name

end Rendering

namespace FetchCache

/-- The name of a way of caching. -/
def name : FetchCache → String
  | .auto => "auto"
  | .defaultCache => "default-cache"
  | .onlyCache => "only-cache"
  | .forceCache => "force-cache"
  | .forceNoStore => "force-no-store"
  | .defaultNoStore => "default-no-store"
  | .onlyNoStore => "only-no-store"

/-- All ways of caching. -/
def all : List FetchCache :=
  [.auto, .defaultCache, .onlyCache, .forceCache, .forceNoStore, .defaultNoStore, .onlyNoStore]

/-- Reads a name. -/
def ofValue? : Value → Option FetchCache
  | .text content => all.find? (·.name = content)
  | _ => none

/-- The value that a way of caching is read from. -/
def toValue (mode : FetchCache) : Value :=
  .text mode.name

end FetchCache

namespace Region

/-- Reads a text, or a list or tuple of texts. -/
def ofValue? : Value → Option Region
  | .text content => some (.one content)
  | value => do
    let items ← value.sequence?
    let names ← Value.texts? items
    return .several names

/-- The value that a region is read from. -/
def toValue : Region → Value
  | .one name => .text name
  | .several names => .tuple (names.map .text)

end Region

/-- The settings that a module declares. -/
structure SegmentConfig where
  revalidate : Option Revalidate := none
  dynamic : Option Rendering := none
  /-- Whether parameters that were not enumerated are served. -/
  dynamicParams : Option Bool := none
  fetchCache : Option FetchCache := none
  preferredRegion : Option Region := none
  /-- Whether the segment opts into partial prerendering, or out of it. -/
  experimentalPpr : Option Bool := none
  /-- For how many seconds rendering may run. -/
  maxDuration : Option Number := none
deriving DecidableEq, Repr

namespace SegmentConfig

/-- All settings under their names, with the values that those declared are read from. -/
def settings (config : SegmentConfig) : List (String × Option Value) :=
  [ ("revalidate", config.revalidate.map Revalidate.toValue),
    ("dynamic", config.dynamic.map Rendering.toValue),
    ("dynamic_params", config.dynamicParams.map .bool),
    ("fetch_cache", config.fetchCache.map FetchCache.toValue),
    ("preferred_region", config.preferredRegion.map Region.toValue),
    ("experimental_ppr", config.experimentalPpr.map .bool),
    ("max_duration", config.maxDuration.map .number) ]

/-- The names of all settings, in their order. -/
def names : List String := (settings {}).map (·.1)

/-- The declared settings under their names, with the values they are read from. -/
def declared (config : SegmentConfig) : Bindings Value :=
  Bindings.present config.settings

/-- Reads one setting. None if it has the wrong shape, and no value if it is not declared. -/
def setting? {α : Type} (read : Value → Option α) (exports : Bindings Value) (name : String) :
    Option (Option α) :=
  match exports.lookup? name with
  | none => some none
  | some .none => some none
  | some value => (read value).map some

/-- Reads the settings that a module's exports declare. -/
def parse? (exports : Bindings Value) : Option SegmentConfig := do
  let revalidate ← setting? Revalidate.ofValue? exports "revalidate"
  let dynamic ← setting? Rendering.ofValue? exports "dynamic"
  let dynamicParams ← setting? Value.flag? exports "dynamic_params"
  let fetchCache ← setting? FetchCache.ofValue? exports "fetch_cache"
  let preferredRegion ← setting? Region.ofValue? exports "preferred_region"
  let experimentalPpr ← setting? Value.flag? exports "experimental_ppr"
  let maxDuration ← setting? Value.seconds? exports "max_duration"
  let config : SegmentConfig :=
    ⟨revalidate, dynamic, dynamicParams, fetchCache, preferredRegion, experimentalPpr, maxDuration⟩
  if config.declared.isEmpty then none else some config

end SegmentConfig

end Prerender
