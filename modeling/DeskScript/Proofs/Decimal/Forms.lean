/-
This file shows that doubles that are numbers are ordered like keys in a linear order, and says
which number a double has for its value. What is not a number is not compared to anything. Every
number has at most one double, as the zero of negative sign counts for none.
-/

import DeskScript.Proofs.Decimal.Bits
import Mathlib

namespace DeskScript.Decimal

open Float.Model Float.Model.UnpackedFloat

/-- Keys are compared by the kind of number, then by the exponent and then by the significand. -/
abbrev OrderKey := Int ×ₗ (Int ×ₗ Int)

/-- Among negative numbers the ones with greater exponents and significands come first. -/
def orderKey : UnpackedFloat → OrderKey
  | .infinity .negative => toLex (-2, toLex (0, 0))
  | .finite .negative significand exponent _ => toLex (-1, toLex (-exponent, -significand))
  | .zero _ | .notANumber => toLex (0, toLex (0, 0))
  | .finite .positive significand exponent _ => toLex (1, toLex (exponent, significand))
  | .infinity .positive => toLex (2, toLex (0, 0))

/-! ### Comparing by keys -/

theorem signLE (first second : Sign) :
    (compare first second).isLE = true ↔ first = .negative ∨ second = .positive := by
  cases first with
  | negative => exact iff_of_true (by cases second <;> rfl) (.inl rfl)
  | positive =>
      cases second with
      | negative => exact iff_of_false nofun (by simp)
      | positive => exact iff_of_true rfl (.inr rfl)

theorem magnitudeLE (exponent another : Int) (significand other : Nat) :
    ((compare exponent another).then (compare significand other)).isLE = true ↔
      exponent < another ∨ exponent = another ∧ significand ≤ other := by
  rcases lt_trichotomy exponent another with less | rfl | greater
  · simp [compare_lt_iff_lt.mpr less, less]
  · simp [Nat.isLE_compare]
  · simp [compare_gt_iff_gt.mpr greater, not_lt_of_gt greater, ne_of_gt greater]

theorem magnitudeGE (exponent another : Int) (significand other : Nat) :
    ((compare exponent another).then (compare significand other)).isGE = true ↔
      another < exponent ∨ exponent = another ∧ other ≤ significand := by
  rcases lt_trichotomy exponent another with less | rfl | greater
  · simp [compare_lt_iff_lt.mpr less, not_lt_of_gt less, ne_of_lt less]
  · simp [Nat.isGE_compare]
  · simp [compare_gt_iff_gt.mpr greater, greater]

/-- Where both are numbers, one is at most the other exactly if its key is. -/
theorem unpackedLE (first second : UnpackedFloat) (isFirst : first.isNaN = false)
    (isSecond : second.isNaN = false) :
    first.le second = true ↔ orderKey first ≤ orderKey second := by
  rcases first with (_ | _) | _ | _ | ⟨_ | _, significand, exponent, _⟩ <;>
  rcases second with (_ | _) | _ | _ | ⟨_ | _, other, another, _⟩ <;>
  simp [UnpackedFloat.le, UnpackedFloat.compare, UnpackedFloat.isNaN, orderKey, Prod.Lex.le_iff,
    signLE, magnitudeLE, magnitudeGE] at *

theorem unpackedNaN (first second : UnpackedFloat) (isLE : first.le second = true) :
    first.isNaN = false ∧ second.isNaN = false := by
  cases first <;> cases second <;> first | exact ⟨rfl, rfl⟩ | cases isLE

/-! ### Doubles -/

def keyOf (value : Float) : OrderKey := orderKey value.toModel.unpack

/-- A double is at most another one exactly if both are numbers and so are their keys. -/
theorem floatLE (first second : Float) :
    first ≤ second ↔ first.isNaN = false ∧ second.isNaN = false ∧ keyOf first ≤ keyOf second := by
  have unfolded : first ≤ second ↔ first.toModel.unpack.le second.toModel.unpack = true :=
    decide_eq_true_iff
  rw [unfolded]
  constructor
  · intro isLE
    obtain ⟨isFirst, isSecond⟩ := unpackedNaN _ _ isLE
    exact ⟨isFirst, isSecond, (unpackedLE _ _ isFirst isSecond).mp isLE⟩
  · intro ⟨isFirst, isSecond, keys⟩
    exact (unpackedLE _ _ isFirst isSecond).mpr keys

/-! ### Signs -/

/-- This is the number with a sign and a magnitude. -/
noncomputable def signed : Sign → ℝ → ℝ
  | .negative, magnitude => -magnitude
  | .positive, magnitude => magnitude

theorem signedNotZero (sign : Sign) {magnitude : ℝ} (isPositive : 0 < magnitude) :
    signed sign magnitude ≠ 0 := by
  cases sign with
  | negative => exact neg_ne_zero.mpr isPositive.ne'
  | positive => exact isPositive.ne'

theorem signedApart (sign : Sign) (first second : ℝ) :
    |signed sign first - signed sign second| = |first - second| := by
  cases sign with
  | negative => rw [signed, signed, neg_sub_neg, abs_sub_comm]
  | positive => rfl

theorem signedNeg (sign : Sign) (magnitude : ℝ) : signed (-sign) magnitude = -signed sign magnitude := by
  cases sign with
  | negative => exact (neg_neg magnitude).symm
  | positive => rfl

theorem signOfPositive {sign : Sign} {magnitude : ℝ} (isPositive : 0 < magnitude)
    (isLeast : 0 ≤ signed sign magnitude) : sign = .positive := by
  cases sign with
  | negative => exact absurd isLeast (by rw [signed]; linarith)
  | positive => rfl

theorem signedInjective {sign other : Sign} {first second : ℝ} (isFirst : 0 < first)
    (isSecond : 0 < second) (same : signed sign first = signed other second) :
    sign = other ∧ first = second := by
  cases sign with
  | negative =>
      cases other with
      | negative => exact ⟨rfl, neg_inj.mp same⟩
      | positive =>
          have opposite : -first = second := same
          linarith
  | positive =>
      cases other with
      | negative =>
          have opposite : first = -second := same
          linarith
      | positive => exact ⟨rfl, same⟩

/-! ### Forms -/

/--
A number has one form among the unpacked doubles, if it has any. The zero of negative sign is the
form of no number.
-/
inductive IsForm : UnpackedFloat → ℝ → Prop
  | zero : IsForm (.zero .positive) 0
  | finite (sign : Sign) (significand : Nat) (exponent : ℤ) (isPositive : 0 < significand)
      (below : significand < 2 ^ 53) (least : -1074 ≤ exponent) (most : exponent ≤ 971)
      (full : 2 ^ 52 ≤ significand ∨ exponent = -1074) :
      IsForm (.finite sign significand exponent isPositive)
        (signed sign (significand * 2 ^ exponent))

/-- The greater of two numbers does not have the lower exponent. -/
theorem greaterExponent {significand other : ℕ} {exponent another : ℤ}
    (greater : (other * 2 ^ another : ℝ) ≤ significand * 2 ^ exponent)
    (below : significand < 2 ^ 53) (least : -1074 ≤ exponent)
    (full : 2 ^ 52 ≤ other ∨ another = -1074) : another ≤ exponent := by
  by_contra lower
  have full : (2 : ℝ) ^ 52 ≤ other := by exact_mod_cast full.resolve_right (by omega)
  have power : (2 : ℝ) ^ (exponent + 1) ≤ 2 ^ another :=
    zpow_le_zpow_right₀ one_le_two (by omega)
  have product := (mul_le_mul full power (by positivity) (by positivity)).trans greater
  rw [zpow_add₀ two_ne_zero, zpow_one, mul_comm (2 ^ exponent : ℝ), ← mul_assoc,
    mul_le_mul_iff_left₀ (by positivity)] at product
  have above : (2 ^ 52 * 2 : ℝ) ≤ significand := product
  have : 2 ^ 52 * 2 ≤ significand := by exact_mod_cast above
  omega

/-- Magnitudes are compared by their exponents and then by their significands. -/
theorem magnitudeOrder {significand other : ℕ} {exponent another : ℤ}
    (below : significand < 2 ^ 53) (least : -1074 ≤ exponent)
    (full : 2 ^ 52 ≤ significand ∨ exponent = -1074) (otherBelow : other < 2 ^ 53)
    (otherLeast : -1074 ≤ another) (otherFull : 2 ^ 52 ≤ other ∨ another = -1074) :
    (significand * 2 ^ exponent : ℝ) ≤ other * 2 ^ another ↔
      exponent < another ∨ exponent = another ∧ significand ≤ other := by
  have positive : (0 : ℝ) < 2 ^ exponent := by positivity
  constructor
  · intro most
    rcases (greaterExponent most otherBelow otherLeast full).lt_or_eq with less | rfl
    · exact .inl less
    · exact .inr ⟨rfl, by exact_mod_cast (mul_le_mul_iff_left₀ positive).mp most⟩
  · rintro (less | ⟨rfl, most⟩)
    · by_contra greater
      have := greaterExponent (not_le.mp greater).le below least otherFull
      omega
    · exact mul_le_mul_of_nonneg_right (by exact_mod_cast most) positive.le

/-- A number has only one form. -/
theorem IsForm.unique {first second : UnpackedFloat} {x y : ℝ} (isFirst : IsForm first x)
    (isSecond : IsForm second y) (same : x = y) : first = second := by
  cases isFirst with
  | zero =>
      cases isSecond with
      | zero => rfl
      | finite sign => exact absurd same.symm (signedNotZero sign (by positivity))
  | finite sign significand exponent isPositive below least most full =>
      cases isSecond with
      | zero => exact absurd same (signedNotZero sign (by positivity))
      | finite otherSign other another otherPositive otherBelow otherLeast otherMost otherFull =>
          obtain ⟨rfl, magnitudes⟩ := signedInjective (by positivity) (by positivity) same
          obtain rfl : exponent = another := le_antisymm
            (greaterExponent magnitudes.le otherBelow otherLeast full)
            (greaterExponent magnitudes.ge below least otherFull)
          rw [mul_left_inj' (by positivity)] at magnitudes
          obtain rfl : significand = other := by exact_mod_cast magnitudes
          rfl

theorem IsForm.same {form : UnpackedFloat} {x y : ℝ} (isFirst : IsForm form x)
    (isSecond : IsForm form y) : x = y := by
  cases isFirst with
  | zero =>
      cases isSecond
      rfl
  | finite =>
      cases isSecond
      rfl

/-- Forms are in the order of their numbers. -/
theorem IsForm.order {first second : UnpackedFloat} {x y : ℝ} (isFirst : IsForm first x)
    (isSecond : IsForm second y) : first.le second = true ↔ x ≤ y := by
  cases isFirst with
  | zero =>
      cases isSecond with
      | zero => exact iff_of_true rfl le_rfl
      | finite sign significand exponent isPositive =>
          have positive : (0 : ℝ) < significand * 2 ^ exponent := by positivity
          cases sign with
          | negative => exact iff_of_false Bool.false_ne_true (neg_neg_of_pos positive).not_ge
          | positive => exact iff_of_true rfl positive.le
  | finite sign significand exponent isPositive below least most full =>
      have positive : (0 : ℝ) < significand * 2 ^ exponent := by positivity
      cases isSecond with
      | zero =>
          cases sign with
          | negative => exact iff_of_true rfl (neg_neg_of_pos positive).le
          | positive => exact iff_of_false Bool.false_ne_true positive.not_ge
      | finite otherSign other another otherPositive otherBelow otherLeast otherMost otherFull =>
          have others : (0 : ℝ) < other * 2 ^ another := by positivity
          cases sign with
          | negative =>
              cases otherSign with
              | negative =>
                  rw [signed, signed, neg_le_neg_iff, magnitudeOrder otherBelow otherLeast
                    otherFull below least full, @eq_comm _ another, ← magnitudeGE,
                    ← Ordering.isLE_swap]
                  rfl
              | positive =>
                  exact iff_of_true rfl ((neg_neg_of_pos positive).le.trans others.le)
          | positive =>
              cases otherSign with
              | negative =>
                  exact iff_of_false Bool.false_ne_true
                    ((neg_neg_of_pos others).trans positive).not_ge
              | positive =>
                  rw [signed, signed, magnitudeOrder below least full otherBelow otherLeast
                    otherFull]
                  exact magnitudeLE exponent another significand other

/-! ### Packing -/

theorem unpackSignOf {spec : Format} (sign : Sign) (exponent : BitVec spec.exponentBits)
    (fraction : BitVec spec.mantissaBitsWithoutImplicit) :
    unpackSign (packComponents spec sign exponent fraction) = sign.toBitVec := by
  refine BitVec.eq_of_getLsbD_eq fun place inside => ?_
  obtain rfl : place = 0 := by omega
  simp [unpackSign, packComponents, BitVec.getLsbD_append, BitVec.getElem_append]

theorem signOfSign (sign : Sign) : Sign.ofBitVec sign.toBitVec = sign := by
  cases sign <;> rfl

theorem unpackNormal (sign : Sign) (significand field : Nat) (isPositive : 0 < significand)
    (least : 2 ^ 52 ≤ significand) (below : significand < 2 ^ 53) (isNormal : 0 < field)
    (notSpecial : field < 2047) :
    UnpackedFloat.unpack Format.binary64 (packComponents Format.binary64 sign
      (BitVec.ofNat _ field) (BitVec.ofNat _ significand)) =
        .finite sign significand (field - 1075) isPositive := by
  have fieldOf : (BitVec.ofNat 11 field).toNat = field := by
    rw [BitVec.toNat_ofNat]
    omega
  have notLast : BitVec.ofNat 11 field ≠ -1#11 := fun last => by
    have : field = 2047 := fieldOf.symm.trans (congrArg BitVec.toNat last)
    omega
  have notFirst : BitVec.ofNat 11 field ≠ 0#11 := fun first => by
    have : field = 0 := fieldOf.symm.trans (congrArg BitVec.toNat first)
    omega
  have whole : (1#1 ++ BitVec.ofNat 52 significand).toNat = significand := by
    rw [implicitBit, BitVec.toNat_ofNat]
    omega
  unfold UnpackedFloat.unpack
  simp only [unpackMantissa_packComponents, unpackExponent_packComponents, unpackSignOf,
    signOfSign, if_neg notLast, if_neg notFirst, whole, fieldOf]
  rfl

theorem unpackSubnormal (sign : Sign) (significand : Nat) (isPositive : 0 < significand)
    (below : significand < 2 ^ 52) :
    UnpackedFloat.unpack Format.binary64 (packComponents Format.binary64 sign 0#_
      (BitVec.ofNat _ significand)) = .finite sign significand (-1074) isPositive := by
  have fraction : (BitVec.ofNat 52 significand).toNat = significand := by
    rw [BitVec.toNat_ofNat]
    omega
  have notZero : BitVec.ofNat 52 significand ≠ 0#52 := fun isZero => by
    have : significand = 0 := fraction.symm.trans (congrArg BitVec.toNat isZero)
    omega
  have notLast : 0#11 ≠ -1#11 := by decide
  unfold UnpackedFloat.unpack
  simp only [unpackMantissa_packComponents, unpackExponent_packComponents, unpackSignOf,
    signOfSign, if_neg notLast, if_true, dif_neg notZero, fraction]
  rfl

/-- Packing loses nothing of a double. -/
theorem unpackPack {double : UnpackedFloat} {number : ℝ} (isForm : IsForm double number) :
    UnpackedFloat.unpack Format.binary64 (UnpackedFloat.pack Format.binary64 double) = double := by
  cases isForm with
  | zero => rfl
  | finite sign significand exponent isPositive below least most full =>
      by_cases isNormal : 2 ^ 52 ≤ significand
      · have field : exponent = ((exponent + 1075).toNat : ℤ) - 1075 := by omega
        rw [packNormal sign significand (exponent + 1075).toNat exponent isPositive isNormal below
          field (by omega), unpackNormal sign significand _ isPositive isNormal below (by omega)
          (by omega), ← field]
      · have isLeast : exponent = -1074 := full.resolve_left isNormal
        subst isLeast
        rw [packSubnormal sign significand _ isPositive (by omega) rfl,
          unpackSubnormal sign significand isPositive (by omega)]

/-! ### Values of doubles -/

/-- A double has a number for its value, unless it is no number, infinite or a negative zero. -/
def HasValue (double : Float) (number : ℝ) : Prop := IsForm double.toModel.unpack number

theorem IsForm.packed {form : UnpackedFloat} {number : ℝ} (isForm : IsForm form number) :
    HasValue (.ofModel (.pack form)) number := by
  have same : (Float.Model.pack form).unpack = form := unpackPack isForm
  rwa [HasValue, same]

theorem packModel (model : Float.Model) : Float.Model.pack model.unpack = model := by
  obtain ⟨bits, valid⟩ := model
  rw [Float.Model.mk.injEq]
  exact congrArg UInt64.ofBitVec (packUnpack bits.toBitVec valid)

theorem HasValue.unique {first second : Float} {number : ℝ} (isFirst : HasValue first number)
    (isSecond : HasValue second number) : first = second := by
  have models : first.toModel = second.toModel := by
    rw [← packModel first.toModel, ← packModel second.toModel, IsForm.unique isFirst isSecond rfl]
  cases first
  cases second
  exact congrArg Float.ofModel models

theorem HasValue.order {first second : Float} {x y : ℝ} (isFirst : HasValue first x)
    (isSecond : HasValue second y) : first ≤ second ↔ x ≤ y := by
  rw [← IsForm.order isFirst isSecond]
  exact decide_eq_true_iff

theorem HasValue.same {double : Float} {x y : ℝ} (isFirst : HasValue double x)
    (isSecond : HasValue double y) : x = y := IsForm.same isFirst isSecond

end DeskScript.Decimal
