/-
This file shows that the numbers of a document are read back from their text.
-/

import DeskScript.Json.Printer
import DeskScript.Json.Reader
import DeskScript.Proofs.Decimal.Reading

namespace DeskScript

open Decimal

/-- A whole number has at most 64 bits, and a double is finite. -/
def Number.IsStorable : Number → Prop
  | .whole value => -2 ^ 63 ≤ value ∧ value < 2 ^ 64
  | .decimal value => value.isFinite = true

namespace Json

/-! ### Numerals -/

/-- A numeral that nothing of a number follows is a complete number. -/
theorem completeNumeral {text tail : List Char} {parts : DecimalParts}
    (numeral : IsNumeral text tail parts) (ends : EndsNumber parts.rest) :
    isCompleteNumber text parts = true := by
  have isWhole : isWholePart parts.whole = true := by
    obtain isZero | ⟨first, others, isRow, nonzero⟩ := numeral.noZeros
    · rw [isZero]
      rfl
    · rw [isRow]
      unfold isWholePart
      split <;> simp_all
  have isAfter : text.drop parts.whole.length = fractionText parts.fraction ++ tail := by
    rw [numeral.isText, List.drop_left]
  have noExponent (mark : Char) (isMark : mark = 'e' ∨ mark = 'E') : parts.rest.head? ≠ some mark := by
    intro isFirst
    obtain ⟨-, -, notSmall, notLarge⟩ := ends mark isFirst
    exact isMark.elim notSmall notLarge
  have hasFraction : (fractionText parts.fraction ++ tail).head? = some '.' →
      parts.fraction.isEmpty = false := by
    intro isPoint
    by_contra empty
    rw [Bool.not_eq_false] at empty
    rw [fractionText, if_pos empty] at isPoint
    exact numeral.noPoint isPoint
  have pointed : ((fractionText parts.fraction ++ tail).head? = some '.' →
      parts.fraction.isEmpty = false) ↔ ((!decide ((fractionText parts.fraction ++ tail).head? =
        some '.') || !parts.fraction.isEmpty) = true) := by
    generalize (fractionText parts.fraction ++ tail).head? = first
    by_cases isPoint : first = some '.' <;> simp [isPoint]
  unfold isCompleteNumber
  simp only [isWhole, isAfter, pointed.mp hasFraction, noExponent 'e' (.inl rfl),
    noExponent 'E' (.inr rfl), ne_eq, not_false_eq_true, decide_true, Bool.and_self]

/-- The digits of a whole number are read as this number, with the sign before them. -/
theorem readWhole (negative : Bool) (value : Nat) (rest : List Char) (ends : EndsNumber rest)
    (fits : if negative then 0 < value ∧ value ≤ 2 ^ 63 else value < 2 ^ 64) :
    readNumber negative (natDigits value ++ rest) =
      some (.whole (if negative then -(value : Int) else value), rest) := by
  have numeral := numeralOfNat value rest ends
  have complete := completeNumeral numeral ends
  have isUsed : (natDigits value ++ rest).length - rest.length = (natDigits value).length := by
    rw [List.length_append, Nat.add_sub_cancel]
  unfold readNumber
  simp only [numeral.partsOf, complete, isUsed, digitsValueNat, Bool.not_true, Bool.false_eq_true,
    if_false, true_and]
  cases negative with
  | false =>
      rw [if_neg Bool.false_ne_true] at fits
      have inRange : Int.ofNat value < 2 ^ 64 := by
        rw [Int.ofNat_eq_natCast]
        omega
      rw [if_pos ⟨rfl, inRange⟩]
      rfl
  | true =>
      rw [if_pos rfl] at fits
      have inRange : 0 < Int.ofNat value ∧ Int.ofNat value ≤ 2 ^ 63 := by
        rw [Int.ofNat_eq_natCast]
        omega
      rw [if_neg (by simp), if_pos ⟨rfl, inRange⟩]
      rfl

/-- A numeral with a fraction or an exponent is read as a double. -/
theorem readDecimal (negative : Bool) {text tail : List Char} {parts : DecimalParts}
    (numeral : IsNumeral text tail parts) (ends : EndsNumber parts.rest)
    (longer : parts.whole.length + parts.rest.length < text.length)
    (isFinite : (parts.float negative).isFinite = true) :
    readNumber negative text = some (.decimal (parts.float negative), parts.rest) := by
  have complete := completeNumeral numeral ends
  have notWhole : ¬text.length - parts.rest.length = parts.whole.length := by omega
  unfold readNumber
  simp only [numeral.partsOf, complete, notWhole, isFinite, Bool.not_true, Bool.false_eq_true,
    if_false, false_and, if_true]

/-! ### Numbers -/

/-- A numeral starts with a digit. -/
theorem numeralFirst {text tail : List Char} {parts : DecimalParts}
    (numeral : IsNumeral text tail parts) :
    ∃ first others, text = first :: others ∧ isDecimalDigit first = true := by
  obtain ⟨first, others, isRow⟩ : ∃ first others, parts.whole = first :: others := by
    obtain isZero | ⟨first, others, isRow, -⟩ := numeral.noZeros
    · exact ⟨_, _, isZero⟩
    · exact ⟨first, others, isRow⟩
  refine ⟨first, others ++ (fractionText parts.fraction ++ tail), ?_, ?_⟩
  · rw [numeral.isText, isRow]
    rfl
  · apply numeral.wholeRow
    rw [isRow]
    exact List.mem_cons_self

theorem digitIsNot {first : Char} (isDigit : isDecimalDigit first = true) (other : Char)
    (notDigit : isDecimalDigit other = false) : first ≠ other := by
  intro same
  rw [same, notDigit] at isDigit
  cases isDigit

theorem readUnsigned (fuel : Nat) (first : Char) (others : List Char)
    (isDigit : isDecimalDigit first = true) :
    readValue (fuel + 1) (first :: others) =
      (readNumber false (first :: others)).map fun (value, rest) => (.number value, rest) := by
  have isNot := digitIsNot isDigit
  have notSpace : isSpace first = false := by
    simp [isSpace, isNot ' ' (by decide), isNot '\n' (by decide), isNot '\t' (by decide),
      isNot '\r' (by decide)]
  have noSpace : skipSpace (first :: others) = first :: others := by
    rw [skipSpace, List.dropWhile_cons_of_neg (by simp [notSpace])]
  rw [readValue, noSpace]
  split
  all_goals first
    | rfl
    | exact absurd (List.cons.inj ‹_›).1 (isNot _ (by decide))

theorem readSigned (fuel : Nat) (text : List Char) :
    readValue (fuel + 1) ('-' :: text) =
      (readNumber true text).map fun (value, rest) => (.number value, rest) := by
  rw [readValue]
  rfl

theorem readNatural (value fuel : Nat) (fits : value < 2 ^ 64) (rest : List Char)
    (ends : EndsNumber rest) :
    readValue (fuel + 1) (natDigits value ++ rest) = some (.number (.whole value), rest) := by
  obtain ⟨first, others, isText, isDigit⟩ := numeralFirst (numeralOfNat value rest ends)
  have isRead := readWhole false value rest ends fits
  rw [isText] at isRead ⊢
  rw [readUnsigned fuel first others isDigit, isRead]
  rfl

/-- A number is read back from its digits. -/
theorem readNumberDigits (number : Number) (storable : number.IsStorable) (fuel : Nat)
    (rest : List Char) (ends : EndsNumber rest) :
    readValue (fuel + 1) (number.digits .json ++ rest) = some (.number number, rest) := by
  cases number with
  | whole value =>
      obtain ⟨least, below⟩ := storable
      unfold Number.digits intDigits
      by_cases negative : value < 0
      · simp only [if_pos negative, List.cons_append]
        rw [readSigned, readWhole true value.natAbs rest ends (by rw [if_pos rfl]; omega), if_pos rfl,
          show -(value.natAbs : Int) = value by omega]
        rfl
      · simp only [if_neg negative]
        rw [readNatural value.natAbs fuel (by omega) rest ends,
          show (value.natAbs : Int) = value by omega]
  | decimal value =>
      obtain ⟨dyadic, found⟩ := dyadicOfFinite value storable
      obtain ⟨tail, parts, numeral, isRest, isValue, longer⟩ :=
        numeralOfFloat .json (by decide) value dyadic found rest ends
      have isRead : readNumber dyadic.negative (NumberLayout.json.magnitude dyadic ++ rest) =
          some (.decimal value, rest) := by
        have storable : value.isFinite = true := storable
        rw [readDecimal dyadic.negative numeral (by rw [isRest]; exact ends)
          (by rw [isRest, List.length_append]; omega) (by rw [isValue]; exact storable), isValue, isRest]
      unfold Number.digits
      simp only [floatText .json value dyadic found]
      cases negative : dyadic.negative with
      | true =>
          rw [negative] at isRead
          rw [if_pos rfl, List.cons_append, readSigned, isRead]
          rfl
      | false =>
          rw [negative] at isRead
          obtain ⟨first, others, isText, isDigit⟩ := numeralFirst numeral
          rw [if_neg Bool.false_ne_true]
          rw [isText] at isRead ⊢
          rw [readUnsigned fuel first others isDigit, isRead]
          rfl

/-- The digits of a number start with a minus sign or a digit. -/
theorem numberFirst (number : Number) (storable : number.IsStorable) :
    ∃ first others, number.digits .json = first :: others ∧
      (first = '-' ∨ isDecimalDigit first = true) := by
  cases number with
  | whole value =>
      unfold Number.digits intDigits
      by_cases negative : value < 0
      · exact ⟨'-', _, if_pos negative, .inl rfl⟩
      · obtain ⟨first, others, isText, isDigit⟩ :=
          numeralFirst (numeralOfNat value.natAbs [] endsNumberNil)
        rw [List.append_nil] at isText
        exact ⟨first, others, by simp only [if_neg negative, isText], .inr isDigit⟩
  | decimal value =>
      obtain ⟨dyadic, found⟩ := dyadicOfFinite value storable
      unfold Number.digits
      simp only [floatText .json value dyadic found]
      cases dyadic.negative with
      | true => exact ⟨'-', _, rfl, .inl rfl⟩
      | false =>
          obtain ⟨tail, parts, numeral, -, -, -⟩ :=
            numeralOfFloat .json (by decide) value dyadic found [] endsNumberNil
          obtain ⟨first, others, isText, isDigit⟩ := numeralFirst numeral
          rw [List.append_nil] at isText
          exact ⟨first, others, isText, .inr isDigit⟩

end Json

end DeskScript
