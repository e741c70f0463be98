import Prerender.Expansion
import Prerender.Route
import Prerender.Value.Order

/-!
# Paths listed by a page

A listed page has no chain of segments. Its module lists the paths itself: it has a function that
is called with the locales of the site and returns a mapping of `paths` and `fallback`. An entry
of `paths` is either a concrete URL path, read against the pathname of the page, or a mapping of
`params` and, optionally, a `locale`.

Where locales are configured every path starts with one, the default locale standing in for
entries that name none. Entries that lead to one URL path count once. A single malformed entry
fails the whole page.
-/

namespace Prerender

namespace ListedPage

/-- The page's path function is at fault. -/
def fault (page : ListedPage) (fault : PageFault) (cause : Option ExceptionNote := none) :
    Failure :=
  .page page.pathname page.module.path fault cause

/-- What an exception of a page's path function is raised as: a failure, if its text can be had. -/
def raisedAs (page : ListedPage) : Raised → Raised
  | .failure report => .failure report
  | .crash exception =>
    (Raised.crash exception).reportedAs fun note => page.fault (.raised note.text) (some note)

/-- The parameters among some components of a pathname, behind those already seen. -/
def paramsFrom (pathname : String) (seen : List SegmentParam) :
    List String → Except Failure (List SegmentParam)
  | [] => .ok seen
  | component :: rest =>
    if isBracketed component then
      match SegmentParam.parse? component with
      | none => .error (.structural (.invalidPageComponent component pathname))
      | some param =>
        if seen.any (·.name = param.name) then
          .error (.conflict pathname component (.declaredTwiceByPage param.name pathname))
        else paramsFrom pathname (seen ++ [param]) rest
    else paramsFrom pathname seen rest

/-- The parameters that a pathname declares, in their order. -/
def paramsOf (pathname : String) : Except Failure (List SegmentParam) :=
  paramsFrom pathname [] (Pathname.pieces pathname)

/-- The parameters of a page, in their order. -/
def params (page : ListedPage) : Except Failure (List SegmentParam) :=
  paramsOf page.pathname

end ListedPage

/-- The locales of a site. -/
structure Locales where
  all : List String := []
  default : Option String := none
deriving DecidableEq, Repr

namespace PagePaths

/-- The keys of a mapping that are not among the given names. -/
def otherKeys (names : List String) (entries : Entries) : List Value :=
  (entries.map (·.1)).filter fun
    | .text name => !names.contains name
    | _ => true

/-- Puts a key in its place among ordered ones. -/
def insertKey (key : Value) : List Value → Except Raised (List Value)
  | [] => .ok [key]
  | other :: rest => do
    if ← key.before other then return key :: other :: rest
    let rest ← insertKey key rest
    return other :: rest

/-- Keys in their order; an error if two of them have none. -/
def sortKeys (keys : List Value) : Except Raised (List Value) :=
  keys.foldlM (fun ordered key => insertKey key ordered) []

/-- Keys as messages list them. -/
def displayKeys (keys : List Value) : Except Raised (List String) := do
  let ordered ← sortKeys keys
  Value.displayItems ordered

/-- What the answer of a path function holds, its entries not yet looked at. -/
structure Listing where
  entries : List Value
  fallback : Fallback

/-- Reads a fallback. -/
def fallback? : Value → Except Raised (Option Fallback)
  | .bool false => .ok (some .notFound)
  | .bool true => .ok (some .shell)
  | given => do
    if ← given.compare (.text "blocking") then return some .blocking
    return none

/-- Refuses a mapping that has other keys than those expected. -/
def refuseKeys {α : Type} (keys : List Value) (report : List String → Failure) :
    Except Raised α :=
  match displayKeys keys with
  | .ok shown => .error (.failure (report shown))
  | .error raised => .error raised

/-- Reads what the answer of a path function holds. -/
def readEntriesOf (page : ListedPage) (entries : Entries) : Except Raised Listing :=
  match otherKeys ["paths", "fallback"] entries with
  | key :: keys => refuseKeys (key :: keys) fun names => page.fault (.extraKeys names)
  | [] =>
    let named := Entries.named entries
    match named.lookup? "fallback" with
    | none => .error (.failure (page.fault (.invalidFallback "nothing")))
    | some given => do
      match ← fallback? given with
      | none => given.refused fun shown => page.fault (.invalidFallback shown)
      | some fallback =>
        let paths := (named.lookup? "paths").getD .none
        match paths.sequence? with
        | none => .error (.failure (page.fault (.notList paths.typeName)))
        | some entries => return ⟨entries, fallback⟩

/-- Reads the answer of a path function. -/
def readListing (page : ListedPage) (answer : Value) : Except Raised Listing :=
  match answer.asMapping? with
  | none => .error (.failure (page.fault (.notMapping answer.typeName)))
  | some reading => do
    let entries ← reading
    readEntriesOf page entries

/-- Accepts what an entry gives for a parameter, or the lack of it, and brings it into the form
that values of parameters have. -/
def readParam (page : ListedPage) (param : SegmentParam) (value : Option Value) :
    Except Raised ParamValue :=
  match value with
  | none =>
    if param.kind = .optionalCatchAll then .ok .absent
    else .error (.failure (page.fault (.missingValue param.name)))
  | some value =>
    match param.kind with
    | .single =>
      match value with
      | .text content => .ok (.text content)
      | value => value.refused fun shown => page.fault (.notText param.name shown)
    | .catchAll => readParts page param value
    | .optionalCatchAll =>
      match value with
      | .none => .ok .absent
      | value => readParts page param value
where
  /-- Accepts the value of a catch-all. -/
  readParts (page : ListedPage) (param : SegmentParam) (value : Value) :
      Except Raised ParamValue :=
    match value.sequence?.bind Value.texts? with
    | some (part :: parts) => .ok (.parts (part :: parts))
    | some [] =>
      if param.kind = .optionalCatchAll then .ok .absent
      else value.refused fun shown => page.fault (.notTexts param.name shown)
    | none => value.refused fun shown => page.fault (.notTexts param.name shown)

/-- An entry that was read: its parameters, and the locale that it names. -/
structure Entry where
  record : ParamRecord
  locale : Option String
deriving DecidableEq, Repr

/-- Splits a leading locale off the components of a URL path. Only locales of the site count. -/
def splitLocale (locales : List String) (components : List String) :
    Option String × List String :=
  match components with
  | [] => (none, [])
  | first :: rest => if locales.contains first then (some first, rest) else (none, first :: rest)

/-- Reads an entry that is a URL path. -/
def readUrl (page : ListedPage) (locales : List String) (url : String) :
    Except Failure Entry :=
  let (locale, components) := splitLocale locales (Pathname.components url)
  match Pathname.captures? page.pathname (Pathname.joinSlashes components) with
  | some record => .ok ⟨record, locale⟩
  | none => .error (page.fault (.unmatchedUrl url))

/-- The locale that an entry names, if it names one of the site. -/
def readLocale (page : ListedPage) (locales : List String) :
    Option Value → Except Raised (Option String)
  | none => .ok none
  | some .none => .ok none
  | some (.text locale) =>
    if locales.contains locale then .ok (some locale)
    else .error (.failure (page.fault (.unknownLocale (Text.quote locale))))
  | some value => do
    -- No value of another type equals a locale, but comparing it with one may raise something.
    let _ ← value.isAmong (locales.map .text)
    value.refused fun shown => page.fault (.unknownLocale shown)

/-- The values that an entry gives for the parameters of a page. Other keys are not looked at. -/
def readParams (page : ListedPage) (reading : Except Raised Entries) :
    ParamRecord → List SegmentParam → Except Raised ParamRecord
  | record, [] => .ok record
  | record, param :: rest => do
    let values ← reading
    let value ← readParam page param ((Entries.named values).lookup? param.name)
    readParams page reading (record.assign param.name value) rest

/-- Reads what an entry holds that is a mapping. -/
def readMapping (page : ListedPage) (params : List SegmentParam) (locales : List String)
    (entry : Value) (entries : Entries) : Except Raised Entry :=
  match otherKeys ["params", "locale"] entries with
  | key :: keys => refuseKeys (key :: keys) fun names => page.fault (.extraEntryKeys names)
  | [] =>
    let named := Entries.named entries
    match (named.lookup? "params").bind Value.asMapping? with
    | none => entry.refused fun shown => page.fault (.noParams shown)
    | some reading => do
      let locale ← readLocale page locales (named.lookup? "locale")
      let record ← readParams page reading [] params
      return ⟨record, locale⟩

/-- Reads an entry of a page's listing. -/
def readEntry (page : ListedPage) (params : List SegmentParam) (locales : List String)
    (entry : Value) : Except Raised Entry :=
  match entry with
  | .text url => (readUrl page locales url).mapError .failure
  | entry =>
    match entry.asMapping? with
    | none => .error (.failure (page.fault (.invalidEntry entry.typeName)))
    | some reading => do
      let entries ← reading
      readMapping page params locales entry entries

/-- The text of an optional locale that stands in front of a path; an empty one counts as none. -/
def localeText (locale default : Option String) : String :=
  match locale, default with
  | some locale, default => if locale.isEmpty then default.getD "None" else locale
  | none, default => default.getD "None"

/-- A URL path with its locale in front, where locales are configured. -/
def localize (locales : Locales) (locale : Option String) (path : String) : String :=
  if locales.all.isEmpty then path
  else
    let start := "/" ++ localeText locale locales.default
    if path = "/" then start else start ++ path

/-- The URL path of an entry. -/
def entryPathname (page : ListedPage) (locales : Locales) (entry : Entry) :
    Except Crash String :=
  (Pathname.interpolate page.pathname entry.record).map (localize locales entry.locale)

/-- Reads all entries of a listing, in their order, each with its URL path. -/
def readEntries (page : ListedPage) (params : List SegmentParam) (locales : Locales) :
    List Value → Except Raised (List (ParamRecord × String))
  | [] => .ok []
  | value :: rest => do
    let entry ← readEntry page params locales.all value
    let pathname ← (entryPathname page locales entry).mapError .crash
    let behind ← readEntries page params locales rest
    return (entry.record, pathname) :: behind

/-- Paths without those whose URL path was seen before. -/
def distinctFrom (seen : List String) :
    List (ParamRecord × String) → List (ParamRecord × String)
  | [] => []
  | (record, pathname) :: rest =>
    if seen.contains pathname then distinctFrom seen rest
    else (record, pathname) :: distinctFrom (pathname :: seen) rest

/-- What a path function returned or raised, as the paths of its page. -/
def pathsOf (page : ListedPage) (params : List SegmentParam) (locales : Locales)
    (answer : Except Raised Value) : Except Raised (StaticPaths Revalidate) :=
  match answer with
  | .error raised => .error (page.raisedAs raised)
  | .ok answer => do
    let listing ← readListing page answer
    let paths ← readEntries page params locales listing.entries
    let paths := distinctFrom [] paths
    return {
      paths := paths.map (·.1)
      fallback := listing.fallback
      revalidate := .never
      pathnames := paths.map (·.2) }

end PagePaths

open PagePaths in
/-- The paths that a page lists for the locales of a site, behind the given calls. A page without
parameters lists none; a page with parameters but without a path function is rendered on
request. -/
def ListedPage.staticPaths (page : ListedPage) (locales : Locales) (calls : List Call) :
    Except Raised (StaticPaths Revalidate) × List Call :=
  match page.params with
  | .error failure => (.error (.failure failure), calls)
  | .ok [] => (.ok { revalidate := .never }, calls)
  | .ok params =>
    match Exports.raised? page.module.exports, Exports.pathsFunction? page.module.exports with
    | some raised, _ => (.error raised.leaving, calls)
    | none, none => (.ok { fallback := .blocking, revalidate := .never }, calls)
    | none, some function =>
      let arguments := Arguments.locales locales.all locales.default
      let paths := pathsOf page params locales (function.invoke calls arguments)
      (paths.mapError Raised.leaving, calls ++ [⟨function.name, arguments⟩])

/-- The paths that a route of any kind lists when it is taken for a listed page. One that has no
module is taken for such as long as it has no parameters. -/
def Route.staticPaths (route : Route) (locales : Locales) (calls : List Call) :
    Except Raised (StaticPaths Revalidate) × List Call :=
  match route.asListed, ListedPage.paramsOf route.pathname with
  | .ok target, _ => target.staticPaths locales calls
  | .error _, .error failure => (.error (.failure failure), calls)
  | .error _, .ok [] => (.ok { revalidate := .never }, calls)
  | .error exception, .ok _ => (.error (.crash exception), calls)

end Prerender
