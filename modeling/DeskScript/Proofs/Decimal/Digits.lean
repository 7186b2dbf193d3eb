/-
This file shows that rows of decimal digits stand for the numbers that they were written for. Rows of
one width are in the order of these numbers.
-/

import DeskScript.Decimal.Layout
import DeskScript.Decimal.Reader
import Mathlib.Tactic.Ring

namespace DeskScript

namespace Decimal

/-! ### Rows of digits -/

/-- Every character of a row of digits is a digit. -/
def IsDigits (characters : List Char) : Prop :=
  ∀ character ∈ characters, isDecimalDigit character = true

/-- A text that stops a row of digits does not go on with a digit. -/
def StopsDigits (text : List Char) : Prop :=
  ∀ first, text.head? = some first → isDecimalDigit first = false

theorem stopsDigitsCons (first : Char) (rest : List Char)
    (other : isDecimalDigit first = false) : StopsDigits (first :: rest) := by
  intro character isFirst
  rw [← Option.some.inj isFirst]
  exact other

theorem isDigitsAppend (first second : List Char) :
    IsDigits (first ++ second) ↔ IsDigits first ∧ IsDigits second :=
  List.forall_mem_append

theorem isDigitsTake (count : Nat) (digits : List Char) (isRow : IsDigits digits) :
    IsDigits (digits.take count) :=
  fun character inside => isRow character (List.mem_of_mem_take inside)

theorem isDigitsDrop (count : Nat) (digits : List Char) (isRow : IsDigits digits) :
    IsDigits (digits.drop count) :=
  fun character inside => isRow character (List.mem_of_mem_drop inside)

theorem zerosAreDigits (count : Nat) : IsDigits (zeros count) := by
  intro character inside
  rw [List.eq_of_mem_replicate inside]
  decide

theorem natDigitsAreDigits (value : Nat) : IsDigits (natDigits value) := by
  intro character inside
  have isDigit : character.isDigit = true :=
    Nat.isDigit_of_mem_toDigits (by decide) (by decide) inside
  simpa [Char.isDigit, isDecimalDigit, Char.le_def] using isDigit

theorem digitBounds {character : Char} (isDigit : isDecimalDigit character = true) :
    48 ≤ character.toNat ∧ character.toNat ≤ 57 := by
  simp only [isDecimalDigit, Char.le_def, UInt32.le_iff_toNat_le, Bool.and_eq_true,
    decide_eq_true_eq] at isDigit
  exact isDigit

/-- The reader of a row of digits stops where the row ends. -/
theorem takeDigitRow (digits rest : List Char) (isRow : IsDigits digits) (stops : StopsDigits rest) :
    (digits ++ rest).takeWhile isDecimalDigit = digits ∧
      (digits ++ rest).dropWhile isDecimalDigit = rest := by
  rw [List.takeWhile_append_of_pos isRow, List.dropWhile_append_of_pos isRow]
  cases rest with
  | nil => simp
  | cons first others =>
      have other := stops first rfl
      simp [other]

/-! ### Values of rows -/

theorem digitsValueEq (characters : List Char) :
    digitsValue characters = Nat.ofDigitChars 10 characters 0 := by
  rw [digitsValue, Nat.ofDigitChars_eq_foldl]
  congr 1
  funext value character
  rw [Nat.mul_comm]
  rfl

theorem digitsValueAppend (first second : List Char) :
    digitsValue (first ++ second) = digitsValue first * 10 ^ second.length + digitsValue second := by
  rw [digitsValueEq, digitsValueEq, digitsValueEq, Nat.ofDigitChars_append,
    Nat.ofDigitChars_eq_ofDigitChars_zero, Nat.mul_comm]

theorem digitsValueZeros (count : Nat) : digitsValue (zeros count) = 0 := by
  rw [digitsValueEq, zeros, Nat.ofDigitChars_replicate_zero, Nat.mul_zero]

/-- A number is the value of its digits. -/
theorem digitsValueNat (value : Nat) : digitsValue (natDigits value) = value := by
  rw [digitsValueEq]
  exact Nat.ofDigitChars_ten_toDigits

theorem digitsValuePadded (width value : Nat) :
    digitsValue (padZeros width (natDigits value)) = value := by
  rw [padZeros, digitsValueAppend, digitsValueZeros, digitsValueNat, Nat.zero_mul, Nat.zero_add]

/-! ### Rows of a fixed width -/

theorem paddedAreDigits (width value : Nat) : IsDigits (padZeros width (natDigits value)) :=
  (isDigitsAppend _ _).mpr ⟨zerosAreDigits _, natDigitsAreDigits value⟩

/-- A number that is small enough is padded to exactly the width. -/
theorem paddedLength (width value : Nat) (isWide : 0 < width) (small : value < 10 ^ width) :
    (padZeros width (natDigits value)).length = width := by
  have fits : (natDigits value).length ≤ width :=
    (Nat.length_toDigits_le_iff (by decide) isWide).mpr small
  rw [padZeros, List.length_append, zeros, List.length_replicate]
  omega

/-! ### First digits -/

theorem natDigitsNonempty (value : Nat) : natDigits value ≠ [] := Nat.toDigits_ne_nil

/-- The digits of a positive number do not start with a zero. -/
theorem firstDigit (value : Nat) (isPositive : 0 < value) :
    ∃ first rest, natDigits value = first :: rest ∧ first ≠ '0' := by
  induction value using Nat.strongRecOn with
  | _ value inductionHypothesis =>
      by_cases small : value < 10
      · refine ⟨value.digitChar, [], Nat.toDigits_of_lt_base small, ?_⟩
        intro isZero
        have code := Nat.toNat_digitChar_of_lt_ten small
        rw [isZero] at code
        simp at code
        omega
      · obtain ⟨first, rest, isDigits, nonzero⟩ :=
          inductionHypothesis (value / 10) (by omega) (by omega)
        refine ⟨first, rest ++ [(value % 10).digitChar], ?_, nonzero⟩
        rw [natDigits, Nat.toDigits_of_base_le (by decide) (by omega)]
        rw [natDigits] at isDigits
        rw [isDigits, List.cons_append]

end Decimal

/-- What follows two rows of one length makes no difference if one of them comes before the other. -/
theorem rowsBefore {first second : List Char} (front back : List Char) (before : first < second)
    (same : first.length = second.length) : first ++ front < second ++ back := by
  induction first generalizing second with
  | nil =>
      rw [List.length_nil] at same
      rw [List.eq_nil_of_length_eq_zero same.symm] at before
      exact absurd before (List.lt_irrefl [])
  | cons head rest inductionHypothesis =>
      cases second with
      | nil => exact absurd same (by simp)
      | cons other others =>
          rw [List.cons_append, List.cons_append]
          rcases List.cons_lt_cons_iff.mp before with smaller | ⟨equal, further⟩
          · exact List.cons_lt_cons_iff.mpr (.inl smaller)
          · refine List.cons_lt_cons_iff.mpr (.inr ⟨equal, inductionHypothesis further ?_⟩)
            simpa using same

namespace Decimal

theorem digitsValueCons (first : Char) (rest : List Char) :
    digitsValue (first :: rest) = (first.toNat - 48) * 10 ^ rest.length + digitsValue rest := by
  have single : digitsValue [first] = first.toNat - 48 := by
    rw [digitsValue, List.foldl_cons, List.foldl_nil, Nat.zero_mul, Nat.zero_add]
  rw [← single, ← digitsValueAppend, List.singleton_append]

theorem digitsValueBelow (digits : List Char) (isRow : IsDigits digits) :
    digitsValue digits < 10 ^ digits.length := by
  induction digits with
  | nil => exact Nat.one_pos
  | cons first rest inductionHypothesis =>
      have bounds := digitBounds (isRow first List.mem_cons_self)
      have further := inductionHypothesis fun digit member =>
        isRow digit (List.mem_cons_of_mem _ member)
      have atMost : (first.toNat - 48) * 10 ^ rest.length ≤ 9 * 10 ^ rest.length :=
        Nat.mul_le_mul_right _ (by omega)
      rw [digitsValueCons, List.length_cons, Nat.pow_succ]
      omega

/-- Of two rows of digits of one length, the one with the smaller value comes first. -/
theorem digitsBefore {first second : List Char} (isFirst : IsDigits first)
    (isSecond : IsDigits second) (same : first.length = second.length)
    (smaller : digitsValue first < digitsValue second) : first < second := by
  induction first generalizing second with
  | nil =>
      rw [List.length_nil] at same
      rw [List.eq_nil_of_length_eq_zero same.symm] at smaller
      exact absurd smaller (Nat.lt_irrefl _)
  | cons head rest inductionHypothesis =>
      cases second with
      | nil => exact absurd same (by simp)
      | cons other others =>
          have restRow : IsDigits rest := fun digit member =>
            isFirst digit (List.mem_cons_of_mem _ member)
          have othersRow : IsDigits others := fun digit member =>
            isSecond digit (List.mem_cons_of_mem _ member)
          have sameRest : rest.length = others.length := by simpa using same
          have headBounds := digitBounds (isFirst head List.mem_cons_self)
          have otherBounds := digitBounds (isSecond other List.mem_cons_self)
          rw [digitsValueCons, digitsValueCons, sameRest] at smaller
          refine List.cons_lt_cons_iff.mpr ?_
          rcases Nat.lt_trichotomy head.toNat other.toNat with less | equal | more
          · exact .inl less
          · rw [equal] at smaller
            have restSmaller : digitsValue rest < digitsValue others := by omega
            exact .inr ⟨Char.toNat_inj.mp equal,
              inductionHypothesis restRow othersRow sameRest restSmaller⟩
          · -- The first digit alone would make the first value the greater one.
            have below := digitsValueBelow others othersRow
            have atLeast : (other.toNat - 48 + 1) * 10 ^ others.length ≤
                (head.toNat - 48) * 10 ^ others.length :=
              Nat.mul_le_mul_right _ (by omega)
            rw [Nat.add_mul, Nat.one_mul] at atLeast
            omega

/-- A row has a number of digits that stand for a value. -/
structure IsRow (width value : Nat) (row : List Char) : Prop where
  digits : IsDigits row
  length : row.length = width
  isValue : digitsValue row = value

theorem IsRow.padded (width value : Nat) (isWide : 0 < width) (small : value < 10 ^ width) :
    IsRow width value (padZeros width (natDigits value)) where
  digits := paddedAreDigits width value
  length := paddedLength width value isWide small
  isValue := digitsValuePadded width value

theorem IsRow.append {width value other number : Nat} {first second : List Char}
    (isFirst : IsRow width value first) (isSecond : IsRow other number second) :
    IsRow (width + other) (value * 10 ^ other + number) (first ++ second) where
  digits := (isDigitsAppend first second).mpr ⟨isFirst.digits, isSecond.digits⟩
  length := by rw [List.length_append, isFirst.length, isSecond.length]
  isValue := by rw [digitsValueAppend, isFirst.isValue, isSecond.isValue, isSecond.length]

theorem IsRow.before {width value greater : Nat} {first second : List Char}
    (isFirst : IsRow width value first) (isSecond : IsRow width greater second)
    (smaller : value < greater) : first < second := by
  refine digitsBefore isFirst.digits isSecond.digits (isFirst.length.trans isSecond.length.symm) ?_
  rw [isFirst.isValue, isSecond.isValue]
  exact smaller

end Decimal

end DeskScript
