import Prerender.Value

/-!
# Values that are found equal

Where two values are compared, everything equals itself, functions, modules and what is not a number
included, and containers are compared by what they hold in the same way (`Value.Same`).
`Value.equals`, which knows no identities, finds equal only what is the same in this sense
(`same_of_equals`). Values that are the same count as true or false together (`Same.isTruthy_eq`).
-/

namespace Prerender

theorem Number.sameValue_congr {x y : Number} (equal : x.sameValue y = true) (z : Number) :
    x.sameValue z = y.sameValue z := by
  unfold Number.sameValue at equal ⊢
  cases left : x.extended? with
  | none => simp [left] at equal
  | some _ =>
    cases right : y.extended? with
    | none => simp [left, right] at equal
    | some _ =>
      simp only [left, right, decide_eq_true_eq] at equal
      rw [equal]

namespace Value

mutual

/-- User code finds two values equal, if each value equals itself. -/
inductive Same : Value → Value → Prop where
  | refl (value : Value) : Same value value
  | numeric {a b : Value} {x y : Number} (left : a.numeric? = some x) (right : b.numeric? = some y)
      (equal : x.sameValue y = true) : Same a b
  | list {as bs : List Value} (each : SameItems as bs) : Same (.list as) (.list bs)
  | tuple {as bs : List Value} (each : SameItems as bs) : Same (.tuple as) (.tuple bs)
  | mapping {as bs : List (Value × Value)} (size : as.length = bs.length)
      (each : SameEntries as bs) : Same (.mapping as) (.mapping bs)
  | object {as bs : List (String × Value)} (size : as.length = bs.length)
      (each : SameFields as bs) : Same (.object as) (.object bs)

/-- Two lists of values are the same item by item. -/
inductive SameItems : List Value → List Value → Prop where
  | nil : SameItems [] []
  | cons {a b : Value} {as bs : List Value} (here : Same a b) (behind : SameItems as bs) :
    SameItems (a :: as) (b :: bs)

/-- Each of some entries is also among others. -/
inductive SameEntries : List (Value × Value) → List (Value × Value) → Prop where
  | nil (others : List (Value × Value)) : SameEntries [] others
  | cons {key value otherKey other : Value} {rest others : List (Value × Value)}
      (member : (otherKey, other) ∈ others) (keys : Same key otherKey) (values : Same value other)
      (behind : SameEntries rest others) : SameEntries ((key, value) :: rest) others

/-- Each of some fields is also among others. -/
inductive SameFields : List (String × Value) → List (String × Value) → Prop where
  | nil (others : List (String × Value)) : SameFields [] others
  | cons {name : String} {value other : Value} {rest others : List (String × Value)}
      (member : (name, other) ∈ others) (values : Same value other)
      (behind : SameFields rest others) : SameFields ((name, value) :: rest) others

end

theorem equals_number_iff {number : Number} {b : Value} :
    (b.numeric?.map (Number.sameValue number)).getD false = true
      ↔ ∃ y, b.numeric? = some y ∧ number.sameValue y = true := by
  cases b.numeric? <;> simp

mutual

/-- What is found equal by what it holds is the same. -/
theorem same_of_equals : ∀ {a b : Value}, a.equals b = true → Same a b
  | .none, b, equal => by
    cases b <;> first | exact .refl _ | cases equal
  | .bool value, b, equal => by
    rw [equals] at equal
    obtain ⟨y, isNumber, same⟩ := equals_number_iff.mp equal
    exact .numeric rfl isNumber same
  | .number value, b, equal => by
    rw [equals] at equal
    obtain ⟨y, isNumber, same⟩ := equals_number_iff.mp equal
    exact .numeric rfl isNumber same
  | .text content, b, equal => by
    cases b with
    | text other =>
      obtain rfl : content = other := of_decide_eq_true equal
      exact .refl _
    | _ => cases equal
  | .bytes content, b, equal => by
    cases b with
    | bytes other =>
      obtain rfl : content = other := of_decide_eq_true equal
      exact .refl _
    | _ => cases equal
  | .list items, b, equal => by
    cases b with
    | list others => exact .list (sameItems_of_equalItems equal)
    | _ => cases equal
  | .tuple items, b, equal => by
    cases b with
    | tuple others => exact .tuple (sameItems_of_equalItems equal)
    | _ => cases equal
  | .mapping entries, b, equal => by
    cases b with
    | mapping others =>
      obtain ⟨size, each⟩ := Bool.and_eq_true_iff.mp equal
      exact .mapping (of_decide_eq_true size) (sameEntries_of_equalEntries each)
    | _ => cases equal
  | .object fields, b, equal => by
    cases b with
    | object others =>
      obtain ⟨size, each⟩ := Bool.and_eq_true_iff.mp equal
      exact .object (of_decide_eq_true size) (sameFields_of_equalFields each)
    | _ => cases equal
  | .moduleObject _, b, equal => by cases b <;> cases equal
  | .stream _ _, b, equal => by cases b <;> cases equal
  | .function _ _, b, equal => by cases b <;> cases equal

theorem sameItems_of_equalItems : ∀ {as bs : List Value}, equalItems as bs = true → SameItems as bs
  | [], [], _ => .nil
  | [], _ :: _, equal => by cases equal
  | _ :: _, [], equal => by cases equal
  | _ :: _, _ :: _, equal => by
    obtain ⟨here, behind⟩ := Bool.and_eq_true_iff.mp equal
    exact .cons (same_of_equals here) (sameItems_of_equalItems behind)

theorem sameEntries_of_equalEntries : ∀ {entries others : List (Value × Value)},
    equalEntries entries others = true → SameEntries entries others
  | [], others, _ => .nil others
  | (key, value) :: rest, others, equal => by
    obtain ⟨here, behind⟩ := Bool.and_eq_true_iff.mp equal
    obtain ⟨other, member, found⟩ := List.any_eq_true.mp here
    obtain ⟨keys, values⟩ := Bool.and_eq_true_iff.mp found
    exact .cons member (same_of_equals keys) (same_of_equals values)
      (sameEntries_of_equalEntries behind)

theorem sameFields_of_equalFields : ∀ {fields others : List (String × Value)},
    equalFields fields others = true → SameFields fields others
  | [], others, _ => .nil others
  | (name, value) :: rest, others, equal => by
    obtain ⟨here, behind⟩ := Bool.and_eq_true_iff.mp equal
    obtain ⟨⟨otherName, other⟩, member, found⟩ := List.any_eq_true.mp here
    obtain ⟨names, values⟩ := Bool.and_eq_true_iff.mp found
    obtain rfl : name = otherName := of_decide_eq_true names
    exact .cons member (same_of_equals values) (sameFields_of_equalFields behind)

end

/-! ### Texts and truth values -/

theorem Same.text_left {content : String} {b : Value} (same : Same (.text content) b) :
    b = .text content := by
  cases same with
  | refl => rfl
  | numeric left _ _ => cases left

theorem Same.text_right {content : String} {a : Value} (same : Same a (.text content)) :
    a = .text content := by
  cases same with
  | refl => rfl
  | numeric _ right _ => cases right

theorem Same.bool_eq {a b : Bool} (same : Same (.bool a) (.bool b)) : a = b := by
  cases same with
  | refl => rfl
  | numeric left right equal =>
    cases left
    cases right
    revert equal
    cases a <;> cases b <;> decide

/-! ### Truth -/

/-- What counts as a number counts as true unless it is zero. -/
theorem isTruthy_of_numeric? {a : Value} {x : Number} (isNumber : a.numeric? = some x) :
    a.isTruthy = !x.sameValue (.int 0) := by
  cases a with
  | bool value =>
    cases isNumber
    cases value <;> decide
  | number value =>
    cases isNumber
    rfl
  | _ => cases isNumber

/-- Values that are the same count as true or false together. -/
theorem Same.isTruthy_eq {a b : Value} (same : Same a b) : a.isTruthy = b.isTruthy := by
  cases same with
  | refl => rfl
  | numeric left right equal =>
    rw [isTruthy_of_numeric? left, isTruthy_of_numeric? right, Number.sameValue_congr equal]
  | list each => cases each <;> rfl
  | tuple each => cases each <;> rfl
  | @mapping as bs size _ =>
    cases as <;> cases bs <;> first | rfl | cases size
  | object _ _ => rfl

end Value

end Prerender
