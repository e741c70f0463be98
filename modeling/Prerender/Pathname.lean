import Prerender.Failure
import Prerender.Param
import Prerender.Text.Percent

/-!
# Pathnames

A pathname is a URL path whose bracketed components stand for parameters. `Pathname.interpolate`
fills in values and gives a concrete URL path; `Pathname.captures?` reads a concrete URL path
against the pathname and gives the values. Values are percent encoded component by component, so
a value may hold any character.

A catch-all takes all components but those that the rest of the pathname needs, one for each
component behind it.
-/

namespace Prerender

namespace Pathname

/-- The pieces of a text between its slashes. -/
def splitSlashes : List Char → List (List Char)
  | [] => [[]]
  | c :: rest =>
    if c = '/' then [] :: splitSlashes rest
    else match splitSlashes rest with
      | [] => [[c]]
      | piece :: pieces => (c :: piece) :: pieces

/-- Components one behind the other, each with a slash in front; a lone slash if there is
none. -/
def joinSlashes (components : List String) : String :=
  if components.isEmpty then "/" else String.join (components.map ("/" ++ ·))

/-- The pieces of a pathname between its slashes, empty ones included. -/
def pieces (pathname : String) : List String :=
  (splitSlashes pathname.toList).map String.ofList

/-- The components of a pathname: its pieces, empty ones left out. -/
def components (pathname : String) : List String :=
  (pieces pathname).filter fun piece => !piece.isEmpty

/-- A text as a URL path component. -/
def encodeComponent (text : String) : String :=
  String.ofList (Text.percentEncode text.toList)

/-- The text that a URL path component stands for. -/
def decodeComponent (component : String) : String :=
  String.ofList (Text.percentDecode component.toList)

/-- A component of a pathname. -/
inductive Component where
  /-- A component that stands for itself. -/
  | literal (text : String)
  /-- A component that stands for the value of a parameter. -/
  | placeholder (param : SegmentParam)
deriving DecidableEq, Repr

/-- Reads a component. -/
def Component.ofText (text : String) : Component :=
  match SegmentParam.parse? text with
  | some param => .placeholder param
  | none => .literal text

/-- A pathname as the list of its components. -/
def pattern (pathname : String) : List Component :=
  (components pathname).map Component.ofText

/-- The URL components that a value gives. -/
def encodeValue : ParamValue → List String
  | .text content => [encodeComponent content]
  | .parts components => components.map encodeComponent
  | .absent => []

/-- The URL components that a component of a pathname gives, under values of its parameters. -/
def Component.fill (params : ParamRecord) : Component → Except Crash (List String)
  | .literal text => .ok [text]
  | .placeholder param =>
    match params.lookup? param.name with
    | some value => .ok (encodeValue value)
    | none => .error (.missingParam param.name)

/-- The URL components that the components of a pathname give. -/
def fillAll (params : ParamRecord) : List Component → Except Crash (List String)
  | [] => .ok []
  | component :: rest => do
    let here ← component.fill params
    let behind ← fillAll params rest
    return here ++ behind

/-- The URL path of a pathname under values of its parameters. A parameter without a value is an
error. -/
def interpolate (pathname : String) (params : ParamRecord) : Except Crash String :=
  (fillAll params (pattern pathname)).map joinSlashes

/-- The value that a catch-all binds to the components it takes. -/
def capturedParts : List String → ParamValue
  | [] => .absent
  | taken => .parts taken

/-- Matches decoded URL components against components of a pathname, from left to right, and adds
the captured values to a record. -/
def capture : List Component → List String → ParamRecord → Option ParamRecord
  | [], [], record => some record
  | [], _ :: _, _ => none
  | .literal _ :: _, [], _ => none
  | .literal text :: rest, given :: behind, record =>
    if given = text then capture rest behind record else none
  | .placeholder param :: rest, given, record =>
    match param.kind, given with
    | .single, [] => none
    | .single, text :: behind => capture rest behind (record.assign param.name (.text text))
    | kind, given =>
      let needed := if kind = .catchAll then rest.length + 1 else rest.length
      if given.length < needed then none
      else
        let taken := given.length - rest.length
        capture rest (given.drop taken)
          (record.assign param.name (capturedParts (given.take taken)))

/-- The values of a pathname's parameters in a concrete URL path, if that matches. -/
def captures? (pathname url : String) : Option ParamRecord :=
  capture (pattern pathname) ((components url).map decodeComponent) []

end Pathname

end Prerender
