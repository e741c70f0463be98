import Prerender.Bindings
import Prerender.Text.Enclosed
import Prerender.Text.Word

/-!
# Route parameters

A path component in brackets stands for a parameter:

* `[name]` binds one text,
* `[...name]`, a catch-all, binds one component or more,
* `[[...name]]`, an optional catch-all, may also bind nothing.

`SegmentParam.parse?` reads a component. One line feed at the end of a component is not looked
at, here and in `isBracketed`.
-/

namespace Prerender

/-- How many path components a parameter takes. -/
inductive ParamKind where
  | single
  | catchAll
  | optionalCatchAll
deriving DecidableEq, Repr

/-- The parameter that a dynamic path component declares. -/
structure SegmentParam where
  name : String
  kind : ParamKind
deriving DecidableEq, Repr

/-- The value bound to a parameter. -/
inductive ParamValue where
  /-- The value of a single parameter. -/
  | text (content : String)
  /-- The components taken by a catch-all. -/
  | parts (components : List String)
  /-- An optional catch-all that takes nothing. -/
  | absent
deriving DecidableEq, Repr

/-- Values of parameters, in the order in which they were resolved. -/
abbrev ParamRecord := Bindings ParamValue

namespace ParamRecord

/-- Whether two records bind the same names to the same values, in whatever order. -/
def sameBindings (a b : ParamRecord) : Bool :=
  a.all (b.contains ·) && b.all (a.contains ·)

end ParamRecord

/-- The name of a parameter: word characters, at least one. -/
def paramName? (text : List Char) : Option String :=
  if text ≠ [] ∧ text.all Text.isWord then some (String.ofList text) else none

/-- Whether a path component is dynamic, that is, a pair of brackets around anything on one line. -/
def isBracketed (component : String) : Bool :=
  match Text.between? ['['] [']'] (Text.dropFinalNewline component.toList) with
  | some inner => !inner.contains '\n'
  | none => false

namespace SegmentParam

/-- The brackets around the parameters of each kind. -/
def brackets : ParamKind → List Char × List Char
  | .single => (['['], [']'])
  | .catchAll => (['[', '.', '.', '.'], [']'])
  | .optionalCatchAll => (['[', '[', '.', '.', '.'], [']', ']'])

/-- Reads a path component as a parameter of the given kind. -/
def parseAs? (kind : ParamKind) (component : String) : Option SegmentParam := do
  let (opening, closing) := brackets kind
  let inner ← Text.between? opening closing (Text.dropFinalNewline component.toList)
  let name ← paramName? inner
  return ⟨name, kind⟩

/-- The parameter that a path component declares. None for literal components, and for brackets
around anything that is not a name. -/
def parse? (component : String) : Option SegmentParam :=
  parseAs? .optionalCatchAll component <|> parseAs? .catchAll component
    <|> parseAs? .single component

/-- Whether the parameter is bound to a list of components. -/
def isCatchAll (param : SegmentParam) : Bool :=
  param.kind ≠ .single

end SegmentParam

end Prerender
