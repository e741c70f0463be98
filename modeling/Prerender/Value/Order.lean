import Prerender.Value

/-!
# The order of values

Not every two values have an order: texts, bytes and numbers have one among themselves, and so
have lists and tuples, by the first items that differ. Plain objects are compared as the mappings
of their fields, which have no order. An object of a class of user code may raise something of its
own. `Value.before` says which of two values comes first; `Value.least` takes the lesser one.
-/

namespace Prerender

namespace Value

mutual

/-- Whether a value comes before another one; an error if the two have no order. -/
def before : Value → Value → Except Raised Bool
  | .foreign _ _ (some raised), _ => .error raised
  | _, .foreign _ _ (some raised) => .error raised
  | .text a, .text b => .ok (a < b)
  | .bytes a, .bytes b => .ok (a < b)
  | .list a, .list b => itemsBefore a b
  | .tuple a, .tuple b => itemsBefore a b
  | .object _, .object _ =>
    .error (.crash (.unordered (Value.mapping []).typeName (Value.mapping []).typeName))
  | a, b =>
    match a.numeric?, b.numeric? with
    | some x, some y => .ok (x.less y)
    | _, _ => .error (.crash (.unordered a.qualifiedTypeName b.qualifiedTypeName))
termination_by structural a => a

/-- Whether a list of values comes before another one: the first items that differ decide. -/
def itemsBefore : List Value → List Value → Except Raised Bool
  | [], bs => .ok (!bs.isEmpty)
  | _ :: _, [] => .ok false
  | a :: as, b :: bs => do
    if ← a.compare b then itemsBefore as bs
    else a.before b
termination_by structural as => as

end

/-- The lesser of two values, the first one if neither comes before the other. -/
def least (a b : Value) : Except Raised Value := do
  return if ← b.before a then b else a

end Value

end Prerender
