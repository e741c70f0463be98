import Mathlib.Algebra.Group.Nat.Defs
import Prerender.Number

/-!
# The text of a number

The text of a decimal consists of its digits with a point among them, or behind the first one with
an exponent (`Decimal.Spells`, `Decimal.exists_spells`), and no zeros in front of others
(`IsWhole`). It is read back as the same decimal (`Floating.ofText?_text`), and so is the text of
every floating-point number. A floating-point number is told from an integer by the point or the
exponent in its text, so that the text of a number tells which one it is (`Number.text_injective`).
An integer has a text as well, but is only written if it is not too long
(`Number.isWritable_int_iff`).
-/

namespace Prerender

/-! ### Digits -/

/-- All characters are decimal digits. -/
def AllDigits (chars : List Char) : Prop :=
  ∀ c ∈ chars, c.isDigit = true

theorem AllDigits.append {chars more : List Char} (digits : AllDigits chars)
    (others : AllDigits more) : AllDigits (chars ++ more) :=
  List.forall_mem_append.mpr ⟨digits, others⟩

theorem allDigits_toDigits (n : Nat) : AllDigits (Nat.toDigits 10 n) :=
  fun _ member => Nat.isDigit_of_mem_toDigits (by decide) (by decide) member

theorem allDigits_replicate_zero (count : Nat) : AllDigits (List.replicate count '0') := by
  intro c member
  rw [List.eq_of_mem_replicate member]
  decide

theorem toList_toString_nat (n : Nat) : (toString n).toList = Nat.toDigits 10 n := by
  rw [Nat.toString_eq_ofList_toDigits, String.toList_ofList]

theorem ne_of_isDigit {c other : Char} (isDigit : c.isDigit = true)
    (noDigit : other.isDigit = false) : c ≠ other := by
  rintro rfl
  rw [isDigit] at noDigit
  cases noDigit

/-- A character that is no digit is not among digits. -/
theorem AllDigits.ne {chars : List Char} (digits : AllDigits chars) {c other : Char}
    (member : c ∈ chars) (noDigit : other.isDigit = false) : c ≠ other :=
  ne_of_isDigit (digits c member) noDigit

/-- The digits of a whole number, without zeros in front. -/
inductive IsWhole : List Char → Prop where
  | zero : IsWhole ['0']
  | digits {first : Char} {rest : List Char} (isDigit : first.isDigit = true)
      (nonzero : first ≠ '0') (others : AllDigits rest) : IsWhole (first :: rest)

theorem IsWhole.allDigits {chars : List Char} (whole : IsWhole chars) : AllDigits chars := by
  cases whole with
  | zero => exact List.forall_mem_singleton.mpr rfl
  | digits isDigit _ others => exact List.forall_mem_cons.mpr ⟨isDigit, others⟩

theorem IsWhole.ne_nil {chars : List Char} (whole : IsWhole chars) : chars ≠ [] := by
  cases whole with
  | zero => exact List.cons_ne_nil _ _
  | digits _ _ _ => exact List.cons_ne_nil _ _

/-- The digits of a number other than zero do not start with a zero. -/
theorem exists_first_toDigits {n : Nat} (nonzero : n ≠ 0) :
    ∃ first rest, Nat.toDigits 10 n = first :: rest ∧ first.isDigit = true ∧ first ≠ '0'
      ∧ AllDigits rest := by
  have nonzeroFirst : ∃ first rest, Nat.toDigits 10 n = first :: rest ∧ first ≠ '0' := by
    induction n using Nat.strongRecOn with
    | ind n ih =>
      by_cases small : n < 10
      · refine ⟨n.digitChar, [], Nat.toDigits_of_lt_base small, fun isZero => nonzero ?_⟩
        exact Nat.digitChar_eq_zero.mp isZero
      · obtain ⟨first, rest, same, other⟩ := ih (n / 10) (by omega) (by omega)
        rw [Nat.toDigits_of_base_le (by decide) (by omega), same]
        exact ⟨first, _, rfl, other⟩
  obtain ⟨first, rest, same, other⟩ := nonzeroFirst
  have allDigits := allDigits_toDigits n
  rw [same] at allDigits
  obtain ⟨isDigit, others⟩ := List.forall_mem_cons.mp allDigits
  exact ⟨first, rest, same, isDigit, other, others⟩

/-- The first digits of a number are those of a whole number. -/
theorem isWhole_take_toDigits (n : Nat) {count : Nat} (some : 0 < count) :
    IsWhole ((Nat.toDigits 10 n).take count) := by
  obtain ⟨count, rfl⟩ := Nat.exists_eq_add_one.mpr some
  by_cases nonzero : n = 0
  · rw [nonzero, Nat.toDigits_zero, List.take_succ_cons, List.take_nil]
    exact .zero
  · obtain ⟨first, rest, same, isDigit, other, others⟩ := exists_first_toDigits nonzero
    rw [same, List.take_succ_cons]
    exact .digits isDigit other fun c member => others c (List.mem_of_mem_take member)

theorem isWhole_toDigits (n : Nat) : IsWhole (Nat.toDigits 10 n) := by
  rw [← List.take_length (l := Nat.toDigits 10 n)]
  exact isWhole_take_toDigits n Nat.length_toDigits_pos

/-- Zeros behind the digits of a number other than zero give those of a whole number again. -/
theorem isWhole_toDigits_append_zeros {n zeros : Nat} (some : n ≠ 0 ∨ zeros = 0) :
    IsWhole (Nat.toDigits 10 n ++ List.replicate zeros '0') := by
  by_cases nonzero : n = 0
  · obtain rfl := some.resolve_left (not_not_intro nonzero)
    rw [List.replicate_zero, List.append_nil]
    exact isWhole_toDigits n
  · obtain ⟨first, rest, same, isDigit, other, others⟩ := exists_first_toDigits nonzero
    rw [same, List.cons_append]
    exact .digits isDigit other (others.append (allDigits_replicate_zero zeros))

namespace Floating

/-- Digits are read as the number that they are the digits of. -/
theorem readDigits_eq {digits : List Char} (allDigits : AllDigits digits) (start : Nat) :
    readDigits start digits = some (Nat.ofDigitChars 10 digits start) := by
  induction digits generalizing start with
  | nil => rfl
  | cons c rest ih =>
    obtain ⟨isDigit, others⟩ := List.forall_mem_cons.mp allDigits
    rw [readDigits, if_pos isDigit, ih others, Nat.ofDigitChars_cons, Nat.mul_comm]
    rfl

theorem readDigits_toDigits (n : Nat) : readDigits 0 (Nat.toDigits 10 n) = some n := by
  rw [readDigits_eq (allDigits_toDigits n), Nat.ofDigitChars_ten_toDigits]

/-- Digits without a sign are read as an exponent. -/
theorem readExponent_of_allDigits {digits : List Char} (allDigits : AllDigits digits) :
    readExponent digits = some (Nat.ofDigitChars 10 digits 0 : Int) := by
  have number := readDigits_eq allDigits 0
  unfold readExponent
  split
  · exact absurd rfl (allDigits.ne List.mem_cons_self (by decide))
  · exact absurd rfl (allDigits.ne List.mem_cons_self (by decide))
  · rw [number]
    rfl

end Floating

/-! ### Integers -/

/-- The text of an integer: its digits, behind a sign if it is negative. -/
theorem toList_toString_int (n : Int) :
    (toString n).toList
      = if n < 0 then '-' :: Nat.toDigits 10 n.natAbs else Nat.toDigits 10 n.natAbs := by
  cases n with
  | ofNat n => exact toList_toString_nat n
  | negSucc n =>
    have signed : toString (Int.negSucc n) = "-" ++ toString (n + 1) := rfl
    rw [signed, String.toList_append, toList_toString_nat, if_pos (Int.negSucc_lt_zero n)]
    rfl

/-- An integer is read back. -/
theorem Floating.readExponent_toString (n : Int) : readExponent (toString n).toList = some n := by
  rw [toList_toString_int]
  split
  · next negative =>
    rw [readExponent, readDigits_toDigits]
    show some (-(n.natAbs : Int)) = some n
    exact congrArg some (by omega)
  · next nonnegative =>
    rw [readExponent_of_allDigits (allDigits_toDigits _), Nat.ofDigitChars_ten_toDigits]
    exact congrArg some (by omega)

theorem Number.fitsIn_iff {digits value : Nat} :
    fitsIn digits value = true ↔ value < 10 ^ digits := by
  induction digits generalizing value with
  | zero => simp [fitsIn]
  | succ digits ih =>
    have positive : 0 < 10 ^ digits := Nat.pow_pos (by decide)
    rw [fitsIn, Bool.or_eq_true, decide_eq_true_iff, ih, Nat.pow_succ]
    omega

/-- An integer can be written if its magnitude has no more digits than the limit. -/
theorem Number.isWritable_int_iff {n : Int} :
    (Number.int n).isWritable = true ↔ n.natAbs < 10 ^ digitLimit :=
  fitsIn_iff

/-! ### Decimals -/

namespace Decimal

theorem ofDigits_zero (negative : Bool) (exponent : Int) :
    ofDigits negative 0 exponent = zero negative := by
  rw [ofDigits, dif_pos rfl]

/-- A zero behind the digits counts as one more in the exponent. -/
theorem ofDigits_mul_ten (negative : Bool) (digits : Nat) (exponent : Int) :
    ofDigits negative (digits * 10) exponent = ofDigits negative digits (exponent + 1) := by
  by_cases isZero : digits = 0
  · rw [isZero, Nat.zero_mul, ofDigits_zero, ofDigits_zero]
  · rw [ofDigits, dif_neg (by omega), dif_pos (Nat.mul_mod_left digits 10),
      Nat.mul_div_cancel digits (by decide)]

theorem ofDigits_mul_pow (negative : Bool) (digits count : Nat) (exponent : Int) :
    ofDigits negative (digits * 10 ^ count) exponent
      = ofDigits negative digits (exponent + count) := by
  induction count generalizing exponent with
  | zero => simp
  | succ count ih =>
    rw [Nat.pow_succ, ← Nat.mul_assoc, ofDigits_mul_ten, ih]
    congr 1
    omega

/-- A decimal has the form without trailing zeros already. -/
theorem ofDigits_self (d : Decimal) : ofDigits d.negative d.digits d.exponent = d := by
  obtain ⟨negative, digits, exponent, reduced⟩ := d
  rcases reduced with ends | ⟨rfl, rfl⟩
  · have some : digits ≠ 0 := by
      rintro rfl
      exact ends rfl
    rw [ofDigits, dif_neg some, dif_neg ends]
  · exact ofDigits_zero negative 0

/-- A fraction with its point; nothing if there is none. -/
def pointed : List Char → List Char
  | [] => []
  | fraction => '.' :: fraction

theorem pointed_of_ne_nil {fraction : List Char} (some : fraction ≠ []) :
    pointed fraction = '.' :: fraction := by
  cases fraction with
  | nil => exact absurd rfl some
  | cons _ _ => rfl

/-- The exponent that the end of a text states; none is stated by an empty one. -/
def statedExponent? : List Char → Option Int
  | [] => some 0
  | _ :: exponent => Floating.readExponent exponent

/-- The text of a decimal without its sign: whole digits, the digits of a fraction, and an exponent
behind the letter `e`. Either a fraction or an exponent is there. -/
structure Spells (d : Decimal) (whole fraction tail : List Char) : Prop where
  isWhole : IsWhole whole
  fractionDigits : AllDigits fraction
  marked : fraction ≠ [] ∨ tail ≠ []
  tail_eq : tail ≠ [] → ∃ sign places, tail = 'e' :: sign :: places ∧ (sign = '-' ∨ sign = '+')
    ∧ places ≠ [] ∧ AllDigits places
  value : ∃ exponent, statedExponent? tail = some exponent
    ∧ ofDigits d.negative (Nat.ofDigitChars 10 (whole ++ fraction) 0) (exponent - fraction.length)
      = d

/-- One digit before the point and an exponent. -/
theorem spells_scientific (d : Decimal) {sign : Char} {places : List Char} {exponent : Int}
    (signed : sign = '-' ∨ sign = '+') (placesSome : places ≠ []) (placesDigits : AllDigits places)
    (reads : Floating.readExponent (sign :: places) = some exponent)
    (shifted : exponent = (Nat.toDigits 10 d.digits).length + d.exponent - 1) :
    d.Spells ((Nat.toDigits 10 d.digits).take 1) ((Nat.toDigits 10 d.digits).drop 1)
      ('e' :: sign :: places) := by
  have allDigits := allDigits_toDigits d.digits
  have longer : 0 < (Nat.toDigits 10 d.digits).length := Nat.length_toDigits_pos
  refine
    { isWhole := isWhole_take_toDigits d.digits (by decide)
      fractionDigits := fun c member => allDigits c (List.mem_of_mem_drop member)
      marked := .inr (List.cons_ne_nil _ _)
      tail_eq := fun _ => ⟨sign, places, rfl, signed, placesSome, placesDigits⟩
      value := ⟨exponent, reads, ?_⟩ }
  rw [List.take_append_drop, Nat.ofDigitChars_ten_toDigits, List.length_drop]
  have exponents : exponent - ((Nat.toDigits 10 d.digits).length - 1 : Nat) = d.exponent := by
    omega
  rw [exponents, ofDigits_self]

/-- All digits behind the point. -/
theorem spells_fraction (d : Decimal) {zeros : Nat}
    (shifted : (zeros : Int) = -((Nat.toDigits 10 d.digits).length + d.exponent)) :
    d.Spells ['0'] (List.replicate zeros '0' ++ Nat.toDigits 10 d.digits) [] where
  isWhole := .zero
  fractionDigits := (allDigits_replicate_zero zeros).append (allDigits_toDigits d.digits)
  marked := .inl (List.append_ne_nil_of_right_ne_nil _ Nat.toDigits_ne_nil)
  tail_eq some := absurd rfl some
  value := by
    refine ⟨0, rfl, ?_⟩
    have digits : Nat.ofDigitChars 10 (['0'] ++ (List.replicate zeros '0'
        ++ Nat.toDigits 10 d.digits)) 0 = d.digits := by
      rw [← List.append_assoc, Nat.ofDigitChars_append, Nat.ofDigitChars_append,
        Nat.ofDigitChars_replicate_zero]
      exact Nat.ofDigitChars_ten_toDigits
    have exponents : 0 - ((List.replicate zeros '0' ++ Nat.toDigits 10 d.digits).length : Int)
        = d.exponent := by
      rw [List.length_append, List.length_replicate]
      omega
    rw [digits, exponents, ofDigits_self]

/-- A point among the digits. -/
theorem spells_between (d : Decimal) {point : Nat} (behindFirst : 0 < point)
    (beforeLast : point < (Nat.toDigits 10 d.digits).length)
    (shifted : (point : Int) = (Nat.toDigits 10 d.digits).length + d.exponent) :
    d.Spells ((Nat.toDigits 10 d.digits).take point) ((Nat.toDigits 10 d.digits).drop point)
      [] := by
  have allDigits := allDigits_toDigits d.digits
  refine
    { isWhole := isWhole_take_toDigits d.digits behindFirst
      fractionDigits := fun c member => allDigits c (List.mem_of_mem_drop member)
      marked := .inl ?_
      tail_eq := fun some => absurd rfl some
      value := ⟨0, rfl, ?_⟩ }
  · exact List.ne_nil_of_length_pos (by rw [List.length_drop]; omega)
  · rw [List.take_append_drop, Nat.ofDigitChars_ten_toDigits, List.length_drop]
    have exponents : 0 - (((Nat.toDigits 10 d.digits).length - point : Nat) : Int)
        = d.exponent := by
      omega
    rw [exponents, ofDigits_self]

/-- All digits before the point. -/
theorem spells_whole (d : Decimal) {zeros : Nat} (shifted : (zeros : Int) = d.exponent) :
    d.Spells (Nat.toDigits 10 d.digits ++ List.replicate zeros '0') ['0'] [] where
  isWhole := by
    refine isWhole_toDigits_append_zeros (d.reduced.imp ?_ ?_)
    · rintro ends isZero
      exact ends (by rw [isZero])
    · rintro ⟨-, whole⟩
      omega
  fractionDigits := List.forall_mem_singleton.mpr rfl
  marked := .inl (List.cons_ne_nil _ _)
  tail_eq some := absurd rfl some
  value := by
    refine ⟨0, rfl, ?_⟩
    -- The zeros before the point and the one behind it are taken off the digits again.
    have digits : Nat.ofDigitChars 10
        (Nat.toDigits 10 d.digits ++ List.replicate zeros '0' ++ ['0']) 0
          = d.digits * 10 ^ (zeros + 1) := by
      have joined : ['0'] = List.replicate 1 '0' := rfl
      rw [List.append_assoc, joined, List.replicate_append_replicate, Nat.ofDigitChars_append,
        Nat.ofDigitChars_replicate_zero, Nat.ofDigitChars_ten_toDigits, Nat.mul_comm]
    have exponents : (0 - (['0'].length : Int)) + (zeros + 1 : Nat) = d.exponent := by
      rw [List.length_singleton]
      omega
    rw [digits, ofDigits_mul_pow, exponents, ofDigits_self]

/-- The sign and the digits of an exponent are read as that exponent. -/
theorem readExponent_signed (order : Int) :
    Floating.readExponent ((if order < 0 then '-' else '+')
        :: (if (Nat.toDigits 10 order.natAbs).length < 2 then '0' :: Nat.toDigits 10 order.natAbs
            else Nat.toDigits 10 order.natAbs))
      = some order := by
  have places : Floating.readDigits 0 (if (Nat.toDigits 10 order.natAbs).length < 2
      then '0' :: Nat.toDigits 10 order.natAbs else Nat.toDigits 10 order.natAbs)
      = some order.natAbs := by
    split
    · rw [Floating.readDigits, if_pos (by decide)]
      exact Floating.readDigits_toDigits _
    · exact Floating.readDigits_toDigits _
  split
  · next negative =>
    rw [Floating.readExponent, places]
    show some (-(order.natAbs : Int)) = some order
    exact congrArg some (by omega)
  · next nonnegative =>
    rw [Floating.readExponent, places]
    show some (order.natAbs : Int) = some order
    exact congrArg some (by omega)

/-- The text of a decimal is one of its spellings. -/
theorem exists_spells (d : Decimal) :
    ∃ whole fraction tail, d.Spells whole fraction tail
      ∧ d.text.toList
        = (if d.negative then ['-'] else []) ++ whole ++ pointed fraction ++ tail := by
  have signed : ∀ magnitude : List Char,
      (String.ofList (if d.negative then '-' :: magnitude else magnitude)).toList
        = (if d.negative then ['-'] else []) ++ magnitude := by
    intro magnitude
    rw [String.toList_ofList]
    split <;> rfl
  have longer : 0 < (Nat.toDigits 10 d.digits).length := Nat.length_toDigits_pos
  simp only [text, toList_toString_nat, signed, List.append_assoc]
  generalize (if d.negative then ['-'] else []) = sign
  split
  · next farOff =>
    have behind : (if (Nat.toDigits 10 d.digits).length = 1 then []
        else '.' :: (Nat.toDigits 10 d.digits).drop 1)
        = pointed ((Nat.toDigits 10 d.digits).drop 1) := by
      split
      · next single => rw [List.drop_of_length_le (by omega), pointed]
      · next several =>
        rw [pointed_of_ne_nil (List.ne_nil_of_length_pos (by rw [List.length_drop]; omega))]
    rw [behind]
    refine ⟨_, _, _, spells_scientific d ?_ ?_ ?_ (readExponent_signed _) rfl, rfl⟩
    · split
      · exact .inl rfl
      · exact .inr rfl
    · split
      · exact List.cons_ne_nil _ _
      · exact Nat.toDigits_ne_nil
    · split
      · exact List.forall_mem_cons.mpr ⟨rfl, allDigits_toDigits _⟩
      · exact allDigits_toDigits _
  · split
    · next small =>
      refine ⟨_, _, _, spells_fraction d (Int.toNat_of_nonneg (by omega)), ?_⟩
      rw [pointed_of_ne_nil (List.append_ne_nil_of_right_ne_nil _ Nat.toDigits_ne_nil)]
      simp
    · split
      · next among =>
        refine ⟨_, _, _,
          spells_between d (by omega) (by omega) (Int.toNat_of_nonneg (by omega)), ?_⟩
        rw [pointed_of_ne_nil (List.ne_nil_of_length_pos (by rw [List.length_drop]; omega))]
        simp
      · next large =>
        refine ⟨_, _, _, spells_whole d (Int.toNat_of_nonneg (by omega)), ?_⟩
        have shifted : ((Nat.toDigits 10 d.digits).length : Int) + d.exponent
            - (Nat.toDigits 10 d.digits).length = d.exponent := by
          omega
        rw [shifted]
        simp [pointed]

namespace Spells

variable {d : Decimal} {whole fraction tail : List Char}

theorem wholeDigits (spells : d.Spells whole fraction tail) : AllDigits whole :=
  spells.isWhole.allDigits

theorem not_mem_mantissa (spells : d.Spells whole fraction tail) {c : Char}
    (noDigit : c.isDigit = false) (noPoint : c ≠ '.') : c ∉ whole ++ pointed fraction := by
  intro member
  rcases List.mem_append.mp member with inWhole | inPointed
  · exact spells.wholeDigits.ne inWhole noDigit rfl
  · cases fraction with
    | nil => cases inPointed
    | cons first rest =>
      rcases List.mem_cons.mp inPointed with rfl | inFraction
      · exact noPoint rfl
      · exact spells.fractionDigits.ne inFraction noDigit rfl

/-- The exponent starts at the first letter `e`. -/
theorem split_exponent (spells : d.Spells whole fraction tail) :
    (whole ++ pointed fraction ++ tail).takeWhile (fun c => decide (c ≠ 'e'))
        = whole ++ pointed fraction
      ∧ (whole ++ pointed fraction ++ tail).dropWhile (fun c => decide (c ≠ 'e')) = tail := by
  have before : ∀ c ∈ whole ++ pointed fraction, decide (c ≠ 'e') = true := by
    intro c member
    refine decide_eq_true ?_
    rintro rfl
    exact spells.not_mem_mantissa (by decide) (by decide) member
  have behind : tail.takeWhile (fun c => decide (c ≠ 'e')) = []
      ∧ tail.dropWhile (fun c => decide (c ≠ 'e')) = tail := by
    by_cases none : tail = []
    · rw [none]
      exact ⟨rfl, rfl⟩
    · obtain ⟨sign, places, rfl, -, -⟩ := spells.tail_eq none
      exact ⟨rfl, rfl⟩
  rw [List.takeWhile_append_of_pos before, List.dropWhile_append_of_pos before, behind.1,
    List.append_nil]
  exact ⟨rfl, behind.2⟩

/-- The fraction starts behind the first point. -/
theorem split_fraction (spells : d.Spells whole fraction tail) :
    (whole ++ pointed fraction).takeWhile (fun c => decide (c ≠ '.')) = whole
      ∧ ((whole ++ pointed fraction).dropWhile (fun c => decide (c ≠ '.'))).drop 1 = fraction := by
  have before : ∀ c ∈ whole, decide (c ≠ '.') = true :=
    fun c member => decide_eq_true (spells.wholeDigits.ne member (by decide))
  rw [List.takeWhile_append_of_pos before, List.dropWhile_append_of_pos before]
  cases fraction with
  | nil => exact ⟨List.append_nil whole, rfl⟩
  | cons first rest => exact ⟨List.append_nil whole, rfl⟩

/-- A spelling starts with a digit. -/
theorem exists_first (spells : d.Spells whole fraction tail) :
    ∃ first others, whole = first :: others ∧ first.isDigit = true := by
  obtain ⟨first, others, rfl⟩ := List.exists_cons_of_ne_nil spells.isWhole.ne_nil
  exact ⟨first, others, rfl, spells.wholeDigits first List.mem_cons_self⟩

/-- A spelling of a decimal is read as that decimal. -/
theorem readMagnitude_eq (spells : d.Spells whole fraction tail) :
    Floating.readMagnitude d.negative (whole ++ pointed fraction ++ tail) = some (.finite d) := by
  have notNamed : ∀ first : Char, first.isDigit = false → ∀ rest,
      whole ++ pointed fraction ++ tail ≠ first :: rest := by
    intro first noDigit rest same
    obtain ⟨digit, others, rfl, isDigit⟩ := spells.exists_first
    rw [(List.cons.inj same).1, noDigit] at isDigit
    cases isDigit
  obtain ⟨exponent, stated, value⟩ := spells.value
  unfold Floating.readMagnitude
  rw [if_neg (notNamed 'i' (by decide) _), if_neg (notNamed 'n' (by decide) _)]
  simp only [spells.split_exponent, spells.split_fraction,
    Floating.readDigits_eq (spells.wholeDigits.append spells.fractionDigits)]
  cases tail with
  | nil =>
    obtain rfl := Option.some.inj stated
    exact congrArg (some ∘ Floating.finite) value
  | cons _ rest =>
    rw [statedExponent?] at stated
    simp only [stated]
    exact congrArg (some ∘ Floating.finite) value

end Spells

end Decimal

namespace Floating

/-- The text of a decimal is read back. -/
theorem ofText?_text_finite (d : Decimal) : ofText? d.text = some (.finite d) := by
  obtain ⟨whole, fraction, tail, spells, spelled⟩ := d.exists_spells
  have reads := spells.readMagnitude_eq
  rw [ofText?, spelled]
  cases sign : d.negative with
  | true =>
    rw [sign] at reads
    exact reads
  | false =>
    rw [sign] at reads
    obtain ⟨first, others, rfl, -⟩ := spells.exists_first
    have unsigned : first ≠ '-' := spells.wholeDigits.ne List.mem_cons_self (by decide)
    simp only [Bool.false_eq_true, if_false, List.nil_append, List.cons_append]
    split
    · next signed => exact absurd (List.cons.inj signed).1 unsigned
    · exact reads

/-- The text of a floating-point number is read back. -/
theorem ofText?_text (number : Floating) : ofText? number.text = some number := by
  cases number with
  | finite d => exact ofText?_text_finite d
  | infinite negative => cases negative <;> decide +kernel
  | notANumber => decide +kernel

end Floating

/-! ### Characters -/

/-- A character of the text of a number that is neither infinite nor undefined. -/
def IsNumeral (c : Char) : Prop :=
  c.isDigit = true ∨ c = '-' ∨ c = '+' ∨ c = '.' ∨ c = 'e'

instance (c : Char) : Decidable (IsNumeral c) :=
  inferInstanceAs (Decidable (c.isDigit = true ∨ c = '-' ∨ c = '+' ∨ c = '.' ∨ c = 'e'))

/-- A text starts like that of a number: with a digit or a sign. -/
def StartsNumeral (chars : List Char) : Prop :=
  ∃ first rest, chars = first :: rest ∧ (first.isDigit = true ∨ first = '-')

theorem isNumeral_of_mem_int {n : Int} {c : Char} (member : c ∈ (toString n).toList) :
    c.isDigit = true ∨ c = '-' := by
  rw [toList_toString_int] at member
  split at member
  · rcases List.mem_cons.mp member with rfl | inDigits
    · exact .inr rfl
    · exact .inl (allDigits_toDigits _ c inDigits)
  · exact .inl (allDigits_toDigits _ c member)

theorem startsNumeral_int (n : Int) : StartsNumeral (toString n).toList := by
  rw [toList_toString_int]
  split
  · exact ⟨_, _, rfl, .inr rfl⟩
  · obtain ⟨first, rest, same⟩ :=
      List.exists_cons_of_ne_nil (Nat.toDigits_ne_nil (n := n.natAbs) (b := 10))
    have isDigit := allDigits_toDigits n.natAbs first (by rw [same]; exact List.mem_cons_self)
    exact ⟨first, rest, same, .inl isDigit⟩

namespace Decimal

theorem isNumeral_of_mem_text {d : Decimal} {c : Char} (member : c ∈ d.text.toList) :
    IsNumeral c := by
  obtain ⟨whole, fraction, tail, spells, spelled⟩ := d.exists_spells
  rw [spelled] at member
  simp only [List.mem_append] at member
  rcases member with ((inSign | inWhole) | inPointed) | inTail
  · split at inSign
    · exact .inr (.inl (List.mem_singleton.mp inSign))
    · cases inSign
  · exact .inl (spells.wholeDigits c inWhole)
  · cases fraction with
    | nil => cases inPointed
    | cons first rest =>
      rcases List.mem_cons.mp inPointed with rfl | inFraction
      · exact .inr (.inr (.inr (.inl rfl)))
      · exact .inl (spells.fractionDigits c inFraction)
  · obtain ⟨sign, places, rfl, signed, -, digits⟩ := spells.tail_eq (List.ne_nil_of_mem inTail)
    rcases List.mem_cons.mp inTail with rfl | inTail
    · exact .inr (.inr (.inr (.inr rfl)))
    · rcases List.mem_cons.mp inTail with rfl | inPlaces
      · exact signed.elim (fun same => .inr (.inl same)) fun same => .inr (.inr (.inl same))
      · exact .inl (digits c inPlaces)

theorem startsNumeral_text (d : Decimal) : StartsNumeral d.text.toList := by
  obtain ⟨whole, fraction, tail, spells, spelled⟩ := d.exists_spells
  obtain ⟨first, others, rfl, isDigit⟩ := spells.exists_first
  rw [spelled]
  split
  · exact ⟨_, _, rfl, .inr rfl⟩
  · exact ⟨_, _, rfl, .inl isDigit⟩

/-- There is a point or an exponent in the text of a decimal. -/
theorem exists_mark (d : Decimal) : '.' ∈ d.text.toList ∨ 'e' ∈ d.text.toList := by
  obtain ⟨whole, fraction, tail, spells, spelled⟩ := d.exists_spells
  rw [spelled]
  rcases spells.marked with some | some
  · rw [pointed_of_ne_nil some]
    exact .inl (by simp)
  · obtain ⟨sign, places, rfl, -, -⟩ := spells.tail_eq some
    exact .inr (by simp)

end Decimal

/-- The text of a floating-point number is not that of an integer. -/
theorem Floating.exists_mark (number : Floating) :
    ∃ c ∈ number.text.toList, c.isDigit = false ∧ c ≠ '-' := by
  cases number with
  | finite d =>
    obtain point | exponent := d.exists_mark
    · exact ⟨'.', point, by decide, by decide⟩
    · exact ⟨'e', exponent, by decide, by decide⟩
  | infinite negative =>
    refine ⟨'i', ?_, by decide, by decide⟩
    cases negative <;> decide
  | notANumber => exact ⟨'n', by decide, by decide, by decide⟩

/-! ### Numbers -/

theorem Floating.text_injective {a b : Floating} (same : a.text = b.text) : a = b := by
  have reads := congrArg Floating.ofText? same
  rw [ofText?_text, ofText?_text] at reads
  exact Option.some.inj reads

theorem Floating.text_ne_int (number : Floating) (n : Int) : number.text ≠ toString n := by
  intro same
  obtain ⟨c, member, noDigit, noSign⟩ := number.exists_mark
  rw [same] at member
  rcases isNumeral_of_mem_int member with isDigit | isSign
  · rw [isDigit] at noDigit
    cases noDigit
  · exact noSign isSign

/-- The text of a number tells which one it is. -/
theorem Number.text_injective {a b : Number} (same : a.text = b.text) : a = b := by
  cases a with
  | int n =>
    cases b with
    | int m =>
      have reads := congrArg (fun text : String => Floating.readExponent text.toList) same
      simp only [text, Floating.readExponent_toString] at reads
      rw [Option.some.inj reads]
    | float number => exact absurd same.symm (number.text_ne_int n)
  | float number =>
    cases b with
    | int m => exact absurd same (number.text_ne_int m)
    | float other => rw [Floating.text_injective same]

end Prerender
