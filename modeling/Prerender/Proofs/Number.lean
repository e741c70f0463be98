import Mathlib.Algebra.Order.Ring.Unbundled.Rat
import Prerender.Number

/-!
# The order of numbers

Numbers are compared by where they lie on the extended line, whatever their representation, and the
order of that is total (`less_of_less_of_not_less`). So some numbers that lie on it have a first one
among the least of them (`IsFirstLeast`), which `Number.least` finds number by number
(`IsFirstLeast.concat`). From zero on there is one number that is not finite
(`eq_infinite_of_isNonnegative`), so that the least of some numbers is finite if any of them is
(`IsFirstLeast.isFinite_iff`).
-/

namespace Prerender

namespace Number

/-! ### The order -/

/-- The number lies on the extended line. -/
def IsOrdered (number : Number) : Prop :=
  number.extended?.isSome = true

theorem isOrdered_of_isNonnegative {number : Number} (nonnegative : number.isNonnegative = true) :
    number.IsOrdered := by
  unfold isNonnegative at nonnegative
  unfold IsOrdered
  cases place : number.extended? with
  | none => simp [place] at nonnegative
  | some _ => rfl

theorem Extended.less_asymm {a b : Extended} (less : a.less b = true) : b.less a = false := by
  cases a <;> cases b <;> simp_all [Extended.less, le_of_lt]

theorem Extended.less_of_less_of_not_less {a b c : Extended} (less : a.less b = true)
    (notBelow : c.less b = false) : a.less c = true := by
  cases a <;> cases b <;> cases c <;> simp_all [Extended.less]
  exact lt_of_lt_of_le less notBelow

theorem exists_of_less {a b : Number} (less : a.less b = true) :
    ∃ x y, a.extended? = some x ∧ b.extended? = some y ∧ x.less y = true := by
  unfold Number.less at less
  split at less
  · next x y placeA placeB => exact ⟨x, y, placeA, placeB, less⟩
  · cases less

/-- What is less than a number is less than everything that is not below it. -/
theorem less_of_less_of_not_less {a b c : Number} (ordered : c.IsOrdered)
    (less : a.less b = true) (notBelow : c.less b = false) : a.less c = true := by
  obtain ⟨x, y, placeA, placeB, below⟩ := exists_of_less less
  obtain ⟨z, placeC⟩ := Option.isSome_iff_exists.mp ordered
  simp only [Number.less, placeA, placeB, placeC] at notBelow ⊢
  exact Extended.less_of_less_of_not_less below notBelow

theorem less_asymm {a b : Number} (less : a.less b = true) : b.less a = false := by
  obtain ⟨x, y, placeA, placeB, below⟩ := exists_of_less less
  simp only [Number.less, placeA, placeB]
  exact Extended.less_asymm below

theorem less_irrefl (number : Number) : number.less number = false := by
  cases below : number.less number with
  | false => rfl
  | true => exact below.symm.trans (less_asymm below)

/-! ### Finite numbers -/

/-- The number is neither infinite nor undefined. -/
def IsFinite : Number → Prop
  | .int _ => True
  | .float (.finite _) => True
  | .float (.infinite _) => False
  | .float .notANumber => False

instance (number : Number) : Decidable number.IsFinite :=
  match number with
  | .int _ => .isTrue trivial
  | .float (.finite _) => .isTrue trivial
  | .float (.infinite _) => .isFalse id
  | .float .notANumber => .isFalse id

/-- From zero on there is one number that is not finite. -/
theorem eq_infinite_of_isNonnegative {number : Number} (nonnegative : number.isNonnegative = true)
    (infinite : ¬number.IsFinite) : number = .float (.infinite false) := by
  match number with
  | .int _ => exact absurd trivial infinite
  | .float (.finite _) => exact absurd trivial infinite
  | .float (.infinite true) => cases nonnegative
  | .float (.infinite false) => rfl
  | .float .notANumber => cases nonnegative

theorem less_infinite {number : Number} (finite : number.IsFinite) :
    number.less (.float (.infinite false)) = true := by
  match number, finite with
  | .int _, _ => rfl
  | .float (.finite _), _ => rfl

/-! ### The least of some numbers -/

/-- A number is one of some numbers, none of them is less, and those before it are greater. -/
def IsFirstLeast (least : Number) (numbers : List Number) : Prop :=
  ∃ before behind, numbers = before ++ least :: behind
    ∧ (∀ earlier ∈ before, least.less earlier = true)
    ∧ ∀ later ∈ behind, later.less least = false

theorem IsFirstLeast.ne_nil {least : Number} {numbers : List Number}
    (first : IsFirstLeast least numbers) : numbers ≠ [] := by
  obtain ⟨before, behind, rfl, -⟩ := first
  simp

theorem IsFirstLeast.mem {least : Number} {numbers : List Number}
    (first : IsFirstLeast least numbers) : least ∈ numbers := by
  obtain ⟨before, behind, rfl, -⟩ := first
  exact List.mem_append_right _ List.mem_cons_self

theorem IsFirstLeast.not_less {least : Number} {numbers : List Number}
    (first : IsFirstLeast least numbers) {number : Number} (member : number ∈ numbers) :
    number.less least = false := by
  obtain ⟨before, behind, rfl, earlier, later⟩ := first
  rcases List.mem_append.mp member with inBefore | inRest
  · exact less_asymm (earlier number inBefore)
  · rcases List.mem_cons.mp inRest with rfl | inBehind
    · exact less_irrefl number
    · exact later number inBehind

/-- Of numbers from zero on the least is finite if any of them is. -/
theorem IsFirstLeast.isFinite_iff {least : Number} {numbers : List Number}
    (first : IsFirstLeast least numbers)
    (nonnegative : ∀ number ∈ numbers, number.isNonnegative = true) :
    least.IsFinite ↔ ∃ number ∈ numbers, number.IsFinite := by
  constructor
  · exact fun finite => ⟨least, first.mem, finite⟩
  · rintro ⟨number, member, finite⟩
    by_contra infinite
    have notLess := first.not_less member
    rw [eq_infinite_of_isNonnegative (nonnegative _ first.mem) infinite,
      less_infinite finite] at notLess
    cases notLess

theorem isFirstLeast_singleton (number : Number) : IsFirstLeast number [number] :=
  ⟨[], [], rfl, fun _ member => absurd member List.not_mem_nil,
    fun _ member => absurd member List.not_mem_nil⟩

/-- One more number is the least if it is less than the least so far. -/
theorem IsFirstLeast.concat {least : Number} {numbers : List Number}
    (first : IsFirstLeast least numbers) (ordered : ∀ number ∈ numbers, number.IsOrdered)
    (next : Number) : IsFirstLeast (least.least next) (numbers ++ [next]) := by
  unfold Number.least
  split
  · next below =>
    refine ⟨numbers, [], rfl, fun number member => ?_,
      fun _ member => absurd member List.not_mem_nil⟩
    -- Nothing of what came before is below the old least number, and the new one is.
    exact less_of_less_of_not_less (ordered number member) below (first.not_less member)
  · next notBelow =>
    obtain ⟨before, behind, rfl, earlier, later⟩ := first
    refine ⟨before, behind ++ [next], by simp, earlier, ?_⟩
    rw [List.forall_mem_append]
    exact ⟨later, List.forall_mem_singleton.mpr (Bool.eq_false_iff.mpr notBelow)⟩

/-- There is only one first among the least. -/
theorem IsFirstLeast.unique {a b : Number} {numbers : List Number} (firstA : IsFirstLeast a numbers)
    (firstB : IsFirstLeast b numbers) : a = b := by
  obtain ⟨beforeA, behindA, rfl, earlierA, laterA⟩ := firstA
  obtain ⟨beforeB, behindB, split, earlierB, laterB⟩ := firstB
  rcases List.append_eq_append_iff.mp split with ⟨between, rfl, rest⟩ | ⟨between, rfl, rest⟩
  · cases between with
    | nil => exact (List.cons.inj rest).1
    | cons _ between =>
      obtain ⟨rfl, rfl⟩ := List.cons.inj rest
      have below := earlierB a (by simp)
      rw [laterA b (by simp)] at below
      cases below
  · cases between with
    | nil => exact (List.cons.inj rest).1.symm
    | cons _ between =>
      obtain ⟨rfl, rfl⟩ := List.cons.inj rest
      have below := earlierA b (by simp)
      rw [laterB a (by simp)] at below
      cases below

end Number

end Prerender
