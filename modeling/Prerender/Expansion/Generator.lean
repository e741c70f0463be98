import Prerender.Segment

/-!
# Calling generators

`SegmentWith.generate` calls the generator of a segment for one record of parameters and checks
the shape of the answer: it has to be a list, tuple or iterator of mappings. `SegmentWith.accept`
checks one generated value against the kind of the parameter it is meant for, and brings it into
the form that parameters have.

An exception of user code comes back as a failure: a reported error as it is, any other one as a
failure of the generator with the exception as its cause. Only what the text of such an exception
raises, and what writing a refused value raises, is let out.
-/

namespace Prerender

/-- A generated item: what a mapping holds, or raises when it is read. -/
abbrev Item := Except Raised Entries

/-- Calls a user function behind some calls, from within a coroutine. -/
def UserFunction.invoke (function : UserFunction) (calls : List Call) (arguments : Arguments) :
    Except Raised Value :=
  (function.run calls arguments).mapError Raised.leaving

namespace SegmentWith

variable {σ : Type}

/-- The generator of a segment is at fault. -/
def fault (segment : SegmentWith σ) (fault : GeneratorFault)
    (cause : Option ExceptionNote := none) : Failure :=
  .generator segment.name segment.sourcePath fault cause

/-- What an exception of a segment's generator is raised as: a failure, if its text can be had. -/
def raisedAs (segment : SegmentWith σ) : Raised → Raised
  | .failure report => .failure report
  | .crash exception =>
    (Raised.crash exception).reportedAs (fun note =>
      segment.fault (.raised segment.name note.text) (some note)) |>.leaving

/-- Refuses the answer of a segment's generator, which is no list. -/
def refuseAnswer {α : Type} (segment : SegmentWith σ) (answer : Value) : Except Raised α :=
  .error (.failure (segment.fault (.notList segment.name answer.typeName)))

/-- The values in a generator's answer. Texts, bytes and mappings are not taken for lists. An
iterator that raises that it is at its end is just that. -/
def answerItems (segment : SegmentWith σ) : Value → Except Raised (List Value)
  | .list items => .ok items
  | .tuple items => .ok items
  | .stream items none => .ok items
  | .stream items (some raised) =>
    if raised.endsIteration then .ok items else .error (segment.raisedAs raised)
  | .none => segment.refuseAnswer .none
  | .text content => segment.refuseAnswer (.text content)
  | .bytes content => segment.refuseAnswer (.bytes content)
  | .mapping entries => segment.refuseAnswer (.mapping entries)
  | .unreadable type written raised => segment.refuseAnswer (.unreadable type written raised)
  | value => .error (segment.raisedAs (.crash (.notIterable value.qualifiedTypeName)))

/-- The items among the values of an answer, each of which has to be a mapping. -/
def mappingsOf (segment : SegmentWith σ) : List Value → Except Raised (List Item)
  | [] => .ok []
  | value :: rest =>
    match value.asMapping? with
    | none => .error (.failure (segment.fault (.notMapping segment.name value.typeName)))
    | some item => do
      let items ← mappingsOf segment rest
      return item :: items

/-- The items in what a generator returned or raised. -/
def itemsOf (segment : SegmentWith σ) : Except Raised Value → Except Raised (List Item)
  | .error raised => .error (segment.raisedAs raised)
  | .ok answer => do
    let values ← segment.answerItems answer
    segment.mappingsOf values

/-- Calls the generator of a segment for a record of parameters, behind the given calls. -/
def generate (segment : SegmentWith σ) (record : ParamRecord) (calls : List Call) :
    Except Raised (List Item) × List Call :=
  match segment.generator with
  | none => (.error (.failure (.structural (.noGenerator segment.describe))), calls)
  | some (.notCallable type) => (.error (segment.raisedAs (.crash (.notCallable type))), calls)
  | some (.callable function) =>
    let arguments := Arguments.params record
    (segment.itemsOf (function.invoke calls arguments), calls ++ [⟨function.name, arguments⟩])

/-- Accepts a generated value, or the lack of one, for the parameter of a segment. Failures are
attributed to the segment whose generator gave the value. -/
def accept (segment : SegmentWith σ) (value : Option Value) (origin : SegmentWith σ) :
    Except Raised ParamValue :=
  match segment.param? with
  | none => .error (.failure (.structural (.unnamedParam segment.describe)))
  | some param =>
    match param.kind, value with
    | .optionalCatchAll, none => .ok .absent
    | .optionalCatchAll, some .none => .ok .absent
    | _, none => .error (.failure (origin.fault (.missingValue param.name origin.name)))
    | .single, some (.text content) => .ok (.text content)
    | .single, some value =>
      value.refused fun shown => origin.fault (.notText param.name origin.name shown)
    | kind, some value =>
      match value.sequence?.bind Value.texts?, kind with
      | some (part :: parts), _ => .ok (.parts (part :: parts))
      | some [], .optionalCatchAll => .ok .absent
      | _, _ => value.refused fun shown => origin.fault (.notTexts param.name origin.name shown)

end SegmentWith

end Prerender
