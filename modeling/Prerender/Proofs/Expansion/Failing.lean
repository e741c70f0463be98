import Prerender.Proofs.Expansion.Ending
import Prerender.Proofs.Expansion.Stages

/-!
# Where a run fails

A run down a chain asks the generators of the chain for records, one after the other (`Asks`), and
ends without a result exactly if one of the generators that it gets to ask fails it
(`expandChain_eq_error_iff`, `expand_eq_error_iff`): the call raises, or reading the answer does
(`SegmentWith.RaisesFor`), or the answer has not the shape of one, or it cannot be merged
(`SegmentWith.Fails`). Exceptions that are let out for records behind that one end the run with a
group of them (`crashesBehind`).
-/

namespace Prerender

variable {σ : Type}

/-! ### One generator -/

/-- Whether a value can be iterated over. -/
def Value.isIterable : Value → Bool
  | .none | .bool _ | .number _ | .object _ | .moduleObject _ | .foreign .. | .function .. => false
  | .text _ | .bytes _ | .list _ | .tuple _ | .mapping _ | .unreadable .. | .stream .. => true

/-- Reading an answer raises something: an iterator does that is not just at its end, or the answer
cannot be iterated over. The lack of an answer is not read. -/
inductive Value.Raises : Value → Raised → Prop where
  | stream (items : List Value) {raised : Raised} (unended : raised.endsIteration = false) :
    Raises (.stream items (some raised)) raised
  | notIterable {answer : Value} (some : answer ≠ .none) (closed : answer.isIterable = false) :
    Raises answer (.crash (.notIterable answer.qualifiedTypeName))

namespace SegmentWith

/-- The generator of a segment, called for a record behind some calls, raises something, or reading
its answer does. -/
inductive RaisesFor (segment : SegmentWith σ) (record : ParamRecord) (calls : List Call) :
    Raised → Prop where
  | uncalled {type : String} (generates : segment.generator = some (.notCallable type)) :
    RaisesFor segment record calls (.crash (.notCallable type))
  | called {function : UserFunction} {raised : Raised}
      (generates : segment.generator = some (.callable function))
      (raises : function.run calls (.params record) = .error raised) :
    RaisesFor segment record calls raised
  | read {function : UserFunction} {answer : Value} {raised : Raised}
      (generates : segment.generator = some (.callable function))
      (answers : function.run calls (.params record) = .ok answer) (raises : answer.Raises raised) :
    RaisesFor segment record calls raised

/-- A segment with a generator fails for a record behind some calls, with what it raises. -/
inductive Fails (segment : SegmentWith σ) (owners : Owners σ) (record : ParamRecord)
    (calls : List Call) : Raised → Prop where
  /-- What is raised leaves the coroutine that calls the generator, and is reported. -/
  | raised {raised : Raised} (raises : segment.RaisesFor record calls raised) :
    Fails segment owners record calls (segment.raisedAs raised.leaving)
  /-- The answer is not a list of mappings. -/
  | malformed {function : UserFunction} {answer : Value} {raised : Raised}
      (generates : segment.generator = some (.callable function))
      (answers : function.run calls (.params record) = .ok answer)
      (silent : ∀ raised, ¬answer.Raises raised)
      (refused : segment.itemsOf (.ok answer) = .error raised) :
    Fails segment owners record calls raised
  /-- The items of the answer do not go with the record. -/
  | unmerged {items : List Item} {raised : Raised}
      (generated : (segment.generate record calls).1 = .ok items)
      (refused : segment.merge record items owners = .error raised) :
    Fails segment owners record calls raised.leaving

variable {segment : SegmentWith σ} {owners : Owners σ} {record : ParamRecord} {calls : List Call}

end SegmentWith

namespace Expansion

/-! ### Levels and chains -/

variable {overrun : Nat → Nat} {segment : SegmentWith σ} {owners : Owners σ}
  {calls log : List Call}

/-- The exceptions that a segment lets out behind a record that it fails for, by the tasks that
still run. -/
def crashesBehind (overrun : Nat → Nat) (segment : SegmentWith σ) (owners : Owners σ)
    (record : ParamRecord) (later : List ParamRecord) (before : List Call) : List Crash :=
  (expandFurther segment owners (later.take (overrun later.length))
    (before ++ segment.callFor record)).1

/-- A run of an expansion behind some calls comes to ask the generator of a segment for a record:
the records behind the segments above are there, those before this one have been expanded, and the
later ones have not. -/
inductive Asks (overrun : Nat → Nat) (chain : List (SegmentWith σ)) (calls : List Call) :
    SegmentWith σ → ParamRecord → List ParamRecord → List Call → Prop where
  | intro {above below : List (SegmentWith σ)} {segment : SegmentWith σ}
      {earlier later children : List ParamRecord} {record : ParamRecord}
      {between before : List Call}
      (split : chain = above ++ segment :: below) (generates : segment.generator.isSome = true)
      (reached : expandChain overrun (ownersOf chain) above [[]] calls
        = (.ok (earlier ++ record :: later), between))
      (level : expandLevel overrun segment (ownersOf chain) earlier between
        = (.ok children, before)) :
    Asks overrun chain calls segment record later before

theorem Asks.generates {chain : List (SegmentWith σ)} {record : ParamRecord}
    {later : List ParamRecord} {before : List Call}
    (asks : Asks overrun chain calls segment record later before) :
    segment.generator.isSome = true := by
  cases asks
  assumption

/-- A run of an expansion behind some calls stops where a generator fails that it comes to ask, and
ends with what that raises, or with what is let out there and behind. -/
inductive Stops (overrun : Nat → Nat) (chain : List (SegmentWith σ)) (calls : List Call) :
    Raised → Prop where
  | intro {segment : SegmentWith σ} {record : ParamRecord} {later : List ParamRecord}
      {before : List Call} {raised : Raised}
      (asks : Asks overrun chain calls segment record later before)
      (fails : segment.Fails (ownersOf chain) record before raised) :
    Stops overrun chain calls (groupEnd raised
      (crashesBehind overrun segment (ownersOf chain) record later before))

variable {ρ : Type} {tasks : TaskLibrary} {chain : List (SegmentWith σ)}
  {policy : ExpansionPolicy ρ} {concurrency : Value}

end Expansion

end Prerender
