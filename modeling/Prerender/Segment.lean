import Prerender.Exports

/-!
# Segments

A segment is one step on the way from the root of a route to its leaf: a path component, and what
the module behind it contributes to static generation. Only a dynamic segment can carry a
parameter, which is why the parameter is part of the segment's role.

`SegmentWith σ` leaves open what settings are; a `Segment` has those that were read from a module
and found right. What is called as the generator of a segment need not be a function (`Generator`),
though modules are only asked for functions.
-/

namespace Prerender

/-- Whether a segment stands for itself or for a parameter. -/
inductive SegmentRole where
  | static
  /-- A dynamic segment, with its parameter if it declares one. -/
  | dynamic (param : Option SegmentParam)
deriving DecidableEq, Repr

/-- The role of a segment that is said to be dynamic or not and to carry a parameter or not.
Static segments carry none. -/
def SegmentRole.of (name : String) (dynamic : Bool) (param : Option SegmentParam) :
    Except Crash SegmentRole :=
  match dynamic, param with
  | true, param => .ok (.dynamic param)
  | false, none => .ok .static
  | false, some _ => .error (.staticWithParam name)

/-- What is called to generate the parameters of a segment. -/
inductive Generator where
  | callable (function : UserFunction)
  /-- Something that cannot be called, by the name of its type. -/
  | notCallable (type : String)

/-- A value in the place of a generator. -/
def Generator.ofValue (value : Value) : Generator :=
  match value.function? with
  | some function => .callable function
  | none => .notCallable value.qualifiedTypeName

/-- One step of a route, with settings of type `σ`. -/
structure SegmentWith (σ : Type) where
  name : String
  role : SegmentRole := .static
  /-- The file that defines the segment. -/
  sourcePath : Option String := none
  config : Option σ := none
  generator : Option Generator := none

/-- One step of a route. -/
abbrev Segment := SegmentWith SegmentConfig

namespace SegmentWith

variable {σ : Type}

/-- Whether the segment stands for a parameter. -/
def isDynamic (segment : SegmentWith σ) : Bool :=
  match segment.role with
  | .static => false
  | .dynamic _ => true

/-- The parameter of the segment. -/
def param? (segment : SegmentWith σ) : Option SegmentParam :=
  match segment.role with
  | .static => none
  | .dynamic param => param

/-- The name of the segment's parameter. -/
def paramName? (segment : SegmentWith σ) : Option String :=
  segment.param?.map (·.name)

/-- Whether the segment matters to static generation. -/
def contributes (segment : SegmentWith σ) : Bool :=
  segment.config.isSome || segment.generator.isSome || segment.isDynamic

/-- The segment as messages name it: its quoted name, with its file if that is known. -/
def describe (segment : SegmentWith σ) : String :=
  match segment.sourcePath with
  | some path =>
    if path.isEmpty then Text.quote segment.name else s!"{Text.quote segment.name} ({path})"
  | none => Text.quote segment.name

end SegmentWith

end Prerender
