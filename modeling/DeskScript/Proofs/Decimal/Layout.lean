/-
This file shows that a laid out decimal number is taken apart into the same number.
-/

import DeskScript.Proofs.Decimal.Digits
import Mathlib.Algebra.Order.Field.Power
import Mathlib.Data.Rat.Cast.Order
import Mathlib.Tactic.FieldSimp
import Mathlib.Tactic.Positivity

namespace DeskScript.Decimal

/-! ### Ends of numbers -/

/-- A text that ends a number goes on with no character that could belong to the number. -/
def EndsNumber (text : List Char) : Prop :=
  ∀ first, text.head? = some first →
    isDecimalDigit first = false ∧ first ≠ '.' ∧ first ≠ 'e' ∧ first ≠ 'E'

theorem EndsNumber.stops {text : List Char} (ends : EndsNumber text) : StopsDigits text :=
  fun first isFirst => (ends first isFirst).1

theorem endsNumberNil : EndsNumber [] := by
  intro first isFirst
  cases isFirst

theorem endsNumberCons (first : Char) (rest : List Char)
    (other : isDecimalDigit first = false ∧ first ≠ '.' ∧ first ≠ 'e' ∧ first ≠ 'E') :
    EndsNumber (first :: rest) := by
  intro character isFirst
  rw [← Option.some.inj isFirst]
  exact other

/-! ### Exponents -/

theorem exponentAbsent (rest : List Char) (ends : EndsNumber rest) : exponentOf rest = (0, rest) := by
  cases rest with
  | nil => rfl
  | cons first others =>
      obtain ⟨-, -, notSmall, notLarge⟩ := ends first rfl
      simp [exponentOf, notSmall, notLarge]

/-- These marks open an exponent, with the sign that they give it. -/
def exponentMarks : List (List Char × Bool) :=
  [(['e', '-'], true), (['e', '+'], false), (['e'], false)]

/-- An exponent after a mark is read with the sign of the mark. -/
theorem exponentPresent (mark : List Char) (negative : Bool) (value : Nat) (rest : List Char)
    (known : (mark, negative) ∈ exponentMarks) (ends : EndsNumber rest) :
    exponentOf (mark ++ (natDigits value ++ rest)) =
      ((if negative then -(value : Int) else value), rest) := by
  obtain ⟨taken, dropped⟩ :=
    takeDigitRow (natDigits value) rest (natDigitsAreDigits value) ends.stops
  have isValue := digitsValueNat value
  have nonempty := natDigitsNonempty value
  simp only [exponentMarks, List.mem_cons, Prod.mk.injEq, List.not_mem_nil, or_false] at known
  obtain ⟨rfl, rfl⟩ | ⟨rfl, rfl⟩ | ⟨rfl, rfl⟩ := known
  · simp [exponentOf, taken, dropped, isValue, nonempty]
  · simp [exponentOf, taken, dropped, isValue, nonempty]
  · -- Without a sign the first digit has to be told from a sign.
    obtain ⟨first, others, isRow⟩ := List.exists_cons_of_ne_nil nonempty
    have isDigit : isDecimalDigit first = true :=
      natDigitsAreDigits value first (by rw [isRow]; exact List.mem_cons_self)
    have notMinus : first ≠ '-' := fun same => by subst same; revert isDigit; decide
    have notPlus : first ≠ '+' := fun same => by subst same; revert isDigit; decide
    rw [isRow] at taken dropped isValue ⊢
    simp only [List.cons_append, List.nil_append] at taken dropped ⊢
    simp [exponentOf, notMinus, notPlus, taken, dropped, isValue]

/-! ### Numerals -/

/-- A fraction stands behind a point, and no point is written without a fraction. -/
def fractionText (fraction : List Char) : List Char :=
  if fraction.isEmpty then [] else '.' :: fraction

/--
A text starts with a numeral when it has the parts of the numeral one after the other. What
stands behind the whole part and the fraction is `tail`.
-/
structure IsNumeral (text tail : List Char) (parts : DecimalParts) : Prop where
  isText : text = parts.whole ++ (fractionText parts.fraction ++ tail)
  wholeRow : IsDigits parts.whole
  fractionRow : IsDigits parts.fraction
  noZeros : parts.whole = ['0'] ∨ ∃ first others, parts.whole = first :: others ∧ first ≠ '0'
  stops : StopsDigits tail
  noPoint : tail.head? ≠ some '.'
  isExponent : exponentOf tail = (parts.exponent, parts.rest)

/-- A numeral is taken apart into its parts. -/
theorem IsNumeral.partsOf {text tail : List Char} {parts : DecimalParts}
    (numeral : IsNumeral text tail parts) : DecimalParts.of text = parts := by
  obtain ⟨whole, fraction, exponent, rest⟩ := parts
  obtain ⟨isText, wholeRow, fractionRow, -, stops, noPoint, isExponent⟩ := numeral
  rw [isText]
  unfold DecimalParts.of
  cases fraction with
  | nil =>
      obtain ⟨taken, dropped⟩ := takeDigitRow whole tail wholeRow stops
      have noFraction : fractionText [] ++ tail = tail := rfl
      rw [noFraction, taken, dropped]
      cases tail with
      | nil => simp [isExponent]
      | cons first others =>
          have notPoint : first ≠ '.' := fun same => noPoint (congrArg some same)
          simp [notPoint, isExponent]
  | cons digit digits =>
      have pointStops : StopsDigits ('.' :: (digit :: digits ++ tail)) :=
        stopsDigitsCons '.' _ (by decide)
      obtain ⟨taken, dropped⟩ := takeDigitRow whole _ wholeRow pointStops
      obtain ⟨fractionTaken, fractionDropped⟩ := takeDigitRow (digit :: digits) tail fractionRow stops
      have isFraction : fractionText (digit :: digits) ++ tail = '.' :: (digit :: digits ++ tail) := rfl
      rw [isFraction, taken, dropped]
      simp only [fractionTaken, fractionDropped, isExponent]

/-- The digits of a natural number are a numeral without fraction and exponent. -/
theorem numeralOfNat (value : Nat) (rest : List Char) (ends : EndsNumber rest) :
    IsNumeral (natDigits value ++ rest) rest ⟨natDigits value, [], 0, rest⟩ := by
  refine ⟨rfl, natDigitsAreDigits value, nofun, ?_, ends.stops, ?_, exponentAbsent rest ends⟩
  · by_cases zero : value = 0
    · subst zero
      exact .inl rfl
    · exact .inr (firstDigit value (by omega))
  · intro isPoint
    exact (ends '.' isPoint).2.1 rfl

/-! ### Positive numbers -/

/-- The value of a numeral without its sign is exact. -/
def DecimalParts.magnitude (parts : DecimalParts) : ℚ :=
  digitsValue (parts.whole ++ parts.fraction) * 10 ^ (parts.exponent - parts.fraction.length)

theorem magnitudeOf (parts : DecimalParts) (value : Nat) (power : Int)
    (isValue : digitsValue (parts.whole ++ parts.fraction) = value)
    (isPower : parts.exponent - parts.fraction.length = power) :
    parts.magnitude = value * 10 ^ power := by
  rw [DecimalParts.magnitude, isValue, isPower]

theorem noZerosTake (count value : Nat) (isPositive : 0 < value) (some : 0 < count)
    (others : List Char) :
    ∃ first rest, (natDigits value).take count ++ others = first :: rest ∧ first ≠ '0' := by
  obtain ⟨first, rest, isRow, nonzero⟩ := firstDigit value isPositive
  obtain ⟨count, rfl⟩ : ∃ less, count = less + 1 := ⟨count - 1, by omega⟩
  exact ⟨first, rest.take count ++ others, by rw [isRow]; rfl, nonzero⟩

/-- The sign of a laid out exponent is told by its mark. -/
theorem exponentOfLead (layout : NumberLayout) (known : (layout.exponentMark, false) ∈ exponentMarks)
    (lead : Int) (rest : List Char) (ends : EndsNumber rest) :
    exponentOf ((if lead < 0 then ['e', '-'] else layout.exponentMark) ++
      (natDigits lead.natAbs ++ rest)) = (lead, rest) := by
  by_cases negative : lead < 0
  · rw [if_pos negative, exponentPresent ['e', '-'] true _ rest (by simp [exponentMarks]) ends,
      if_pos rfl, show -(lead.natAbs : Int) = lead by omega]
  · rw [if_neg negative, exponentPresent layout.exponentMark false _ rest known ends,
      if_neg Bool.false_ne_true, show (lead.natAbs : Int) = lead by omega]

theorem exponentMarkFirst (mark : List Char) (negative : Bool) (known : (mark, negative) ∈ exponentMarks)
    (rest : List Char) : (mark ++ rest).head? = some 'e' := by
  simp only [exponentMarks, List.mem_cons, Prod.mk.injEq, List.not_mem_nil, or_false] at known
  obtain ⟨rfl, -⟩ | ⟨rfl, -⟩ | ⟨rfl, -⟩ := known <;> rfl

section Positive

variable (layout : NumberLayout) (value : Nat) (power lead : Int) (rest : List Char)

/-- With an exponent one digit stands before the point. -/
theorem numeralWithExponent (known : (layout.exponentMark, false) ∈ exponentMarks)
    (isPositive : 0 < value) (ends : EndsNumber rest) :
    IsNumeral ((natDigits value).take 1 ++ (fractionText ((natDigits value).drop 1) ++
        ((if lead < 0 then ['e', '-'] else layout.exponentMark) ++
          (natDigits lead.natAbs ++ rest))))
      ((if lead < 0 then ['e', '-'] else layout.exponentMark) ++ (natDigits lead.natAbs ++ rest))
      ⟨(natDigits value).take 1, (natDigits value).drop 1, lead, rest⟩ := by
  have row := natDigitsAreDigits value
  have first : ((if lead < 0 then ['e', '-'] else layout.exponentMark) ++
      (natDigits lead.natAbs ++ rest)).head? = some 'e' := by
    split
    · rfl
    · exact exponentMarkFirst _ _ known _
  refine ⟨rfl, isDigitsTake 1 _ row, isDigitsDrop 1 _ row, .inr ?_, ?_, ?_,
    exponentOfLead layout known lead rest ends⟩
  · simpa using noZerosTake 1 value isPositive (by decide) []
  · intro character isFirst
    rw [first] at isFirst
    cases isFirst
    decide
  · rw [first]
    decide

/-- A whole number is followed by a point and a zero. -/
theorem numeralWithZeros (isPositive : 0 < value) (ends : EndsNumber rest) :
    IsNumeral (natDigits value ++ zeros power.toNat ++ (fractionText ['0'] ++ rest)) rest
      ⟨natDigits value ++ zeros power.toNat, ['0'], 0, rest⟩ := by
  refine ⟨rfl, (isDigitsAppend _ _).mpr ⟨natDigitsAreDigits value, zerosAreDigits _⟩, ?_, .inr ?_,
    ends.stops, ?_, exponentAbsent rest ends⟩
  · exact zerosAreDigits 1
  · obtain ⟨first, others, isRow, nonzero⟩ := firstDigit value isPositive
    exact ⟨first, others ++ zeros power.toNat, by rw [isRow]; rfl, nonzero⟩
  · intro isPoint
    exact (ends '.' isPoint).2.1 rfl

/-- The point may stand between two digits. -/
theorem numeralWithPoint (count : Nat) (isPositive : 0 < value) (ends : EndsNumber rest) :
    IsNumeral ((natDigits value).take (count + 1) ++
        (fractionText ((natDigits value).drop (count + 1)) ++ rest)) rest
      ⟨(natDigits value).take (count + 1), (natDigits value).drop (count + 1), 0, rest⟩ := by
  have row := natDigitsAreDigits value
  refine ⟨rfl, isDigitsTake _ _ row, isDigitsDrop _ _ row, .inr ?_, ends.stops, ?_,
    exponentAbsent rest ends⟩
  · simpa using noZerosTake (count + 1) value isPositive (by omega) []
  · intro isPoint
    exact (ends '.' isPoint).2.1 rfl

/-- The digits of a small number stand behind a zero, a point and more zeros. -/
theorem numeralBelowOne (count : Nat) (ends : EndsNumber rest) :
    IsNumeral (['0'] ++ (fractionText (zeros count ++ natDigits value) ++ rest)) rest
      ⟨['0'], zeros count ++ natDigits value, 0, rest⟩ := by
  refine ⟨rfl, zerosAreDigits 1, (isDigitsAppend _ _).mpr ⟨zerosAreDigits _, natDigitsAreDigits value⟩,
    .inl rfl, ends.stops, ?_, exponentAbsent rest ends⟩
  intro isPoint
  exact (ends '.' isPoint).2.1 rfl

/-- A positive number is laid out as a numeral that stands for it and is not a mere whole number. -/
theorem numeralOfPositive (known : (layout.exponentMark, false) ∈ exponentMarks)
    (isPositive : 0 < value) (ends : EndsNumber rest) :
    ∃ tail parts, IsNumeral (layout.positive value power ++ rest) tail parts ∧ parts.rest = rest ∧
      parts.magnitude = value * 10 ^ power ∧
      parts.whole.length < (layout.positive value power).length := by
  have isValue := digitsValueNat value
  have row := natDigitsNonempty value
  have nonempty : 0 < (natDigits value).length := List.length_pos_of_ne_nil row
  unfold NumberLayout.positive
  dsimp only
  generalize isLead : Int.ofNat (natDigits value).length - 1 + power = lead
  simp only [Int.ofNat_eq_natCast] at isLead
  by_cases far : lead < -5 ∨ 15 < lead
  · rw [if_pos (by simpa using far)]
    refine ⟨(if lead < 0 then ['e', '-'] else layout.exponentMark) ++ (natDigits lead.natAbs ++ rest),
      ⟨(natDigits value).take 1, (natDigits value).drop 1, lead, rest⟩, ?_, rfl, ?_, ?_⟩
    · simpa [fractionText] using numeralWithExponent layout value lead rest known isPositive ends
    · apply magnitudeOf
      · rw [List.take_append_drop, isValue]
      · simp only [List.length_drop]
        omega
    · have exponent : 0 < (natDigits lead.natAbs).length :=
        List.length_pos_of_ne_nil (natDigitsNonempty _)
      simp only [List.length_append]
      omega
  rw [if_neg (by simpa using far)]
  by_cases whole : 0 ≤ power
  · rw [if_pos whole]
    refine ⟨rest, ⟨natDigits value ++ zeros power.toNat, ['0'], 0, rest⟩, ?_, rfl, ?_, by simp⟩
    · simpa [fractionText] using numeralWithZeros value power rest isPositive ends
    · obtain ⟨count, rfl⟩ := Int.eq_ofNat_of_zero_le whole
      have shifted : digitsValue (natDigits value ++ zeros (count : Int).toNat ++ ['0']) =
          value * 10 ^ count * 10 := by
        rw [show ['0'] = zeros 1 from rfl, digitsValueAppend, digitsValueAppend, digitsValueZeros,
          digitsValueZeros, isValue]
        simp [zeros]
      rw [DecimalParts.magnitude, shifted]
      simp
  rw [if_neg whole]
  by_cases large : 0 ≤ lead
  · rw [if_pos large]
    refine ⟨rest, ⟨(natDigits value).take (lead.toNat + 1), (natDigits value).drop (lead.toNat + 1),
      0, rest⟩, ?_, rfl, ?_, by simp⟩
    · have numeral := numeralWithPoint value rest lead.toNat isPositive ends
      have inside : (natDigits value).drop (lead.toNat + 1) ≠ [] := by
        simp only [ne_eq, List.drop_eq_nil_iff]
        omega
      simpa [fractionText, inside] using numeral
    · apply magnitudeOf
      · rw [List.take_append_drop, isValue]
      · simp only [List.length_drop]
        omega
  · rw [if_neg large]
    refine ⟨rest, ⟨['0'], zeros (-lead - 1).toNat ++ natDigits value, 0, rest⟩, ?_, rfl, ?_, by simp⟩
    · simpa [fractionText, row] using numeralBelowOne value rest (-lead - 1).toNat ends
    · apply magnitudeOf
      · rw [← List.append_assoc, show ['0'] = zeros 1 from rfl, digitsValueAppend, digitsValueAppend,
          digitsValueZeros, digitsValueZeros, isValue]
        simp
      · simp only [List.length_append, zeros, List.length_replicate]
        omega

end Positive

end DeskScript.Decimal
