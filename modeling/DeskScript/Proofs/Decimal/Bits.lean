/-
This file shows how the bits of a double are taken apart and put together.
-/

import DeskScript.Decimal.Dyadic
import Mathlib

namespace DeskScript.Decimal

open Float.Model Float.Model.UnpackedFloat

/-! ### Fields of a bit pattern -/

theorem signOfBit (bit : BitVec 1) : (Sign.ofBitVec bit).toBitVec = bit := by
  revert bit
  decide

/-- A bit pattern is put together from its sign, its exponent field and its fraction. -/
theorem packFields (bits : BitVec 64) :
    packComponents Format.binary64 (Sign.ofBitVec (@unpackSign Format.binary64 bits))
      (@unpackExponent Format.binary64 bits) (@unpackMantissa Format.binary64 bits) = bits := by
  rw [packComponents, signOfBit]
  ext place inside
  simp only [unpackSign, unpackExponent, unpackMantissa]
  grind

theorem fieldOfBits (bits : BitVec 64) :
    (@unpackExponent Format.binary64 bits).toNat = bits.toNat / 2 ^ 52 % 2048 := by
  simp [unpackExponent, Nat.shiftRight_eq_div_pow]

/-! ### Packing what was unpacked -/

theorem implicitBit (fraction : BitVec 52) : (1#1 ++ fraction).toNat = 2 ^ 52 + fraction.toNat := by
  rw [BitVec.toNat_append, ← Nat.shiftLeft_add_eq_or_of_lt fraction.isLt, Nat.shiftLeft_eq]
  rfl

theorem log2OfNormal (significand : Nat) (least : 2 ^ 52 ≤ significand)
    (below : significand < 2 ^ 53) : significand.log2 = 52 := by
  rw [Nat.log2_eq_iff (by omega)]
  exact ⟨least, below⟩

/-- The smallest doubles are packed without an exponent. -/
theorem packSubnormal (sign : Sign) (significand : Nat) (exponent : Int)
    (isPositive : 0 < significand) (below : significand < 2 ^ 52) (least : exponent = -1074) :
    UnpackedFloat.pack Format.binary64 (.finite sign significand exponent isPositive) =
      packComponents Format.binary64 sign 0#_ (BitVec.ofNat _ significand) := by
  have short : significand.log2 < 52 := (Nat.log2_lt (by omega)).mpr below
  have biased : (exponent + Format.binary64.exponentBias +
      Format.binary64.mantissaBitsWithoutImplicit).toNat = 1 := by
    rw [least]
    rfl
  have notNormal : ¬significand.log2 + 1 = Format.binary64.mantissaBits := by
    intro full
    have size : Format.binary64.mantissaBits = 53 := rfl
    omega
  simp only [UnpackedFloat.pack, biased, if_neg notNormal]
  rfl

/-- All other doubles are packed without the highest bit of the significand. -/
theorem packNormal (sign : Sign) (significand field : Nat) (exponent : Int)
    (isPositive : 0 < significand) (least : 2 ^ 52 ≤ significand) (below : significand < 2 ^ 53)
    (isField : exponent = (field : Int) - 1075) (notSpecial : field < 2047) :
    UnpackedFloat.pack Format.binary64 (.finite sign significand exponent isPositive) =
      packComponents Format.binary64 sign (BitVec.ofNat _ field) (BitVec.ofNat _ significand) := by
  have biased : (exponent + Format.binary64.exponentBias +
      Format.binary64.mantissaBitsWithoutImplicit).toNat = field := by
    have bias : Format.binary64.exponentBias = 1023 := rfl
    have width : Format.binary64.mantissaBitsWithoutImplicit = 52 := rfl
    omega
  have isFinite : ¬2 ^ Format.binary64.exponentBits ≤ field + 1 :=
    show ¬2 ^ 11 ≤ field + 1 by omega
  have isNormal : significand.log2 + 1 = Format.binary64.mantissaBits := by
    rw [log2OfNormal significand least below]
    rfl
  simp only [UnpackedFloat.pack, biased, if_neg isFinite, if_pos isNormal]

/-- A valid bit pattern is not changed by unpacking and packing it. -/
theorem packUnpack (bits : BitVec 64) (valid : Format.binary64.Valid bits) :
    UnpackedFloat.pack Format.binary64 (UnpackedFloat.unpack Format.binary64 bits) = bits := by
  have parts := packFields bits
  have fieldBound := (@unpackExponent Format.binary64 bits).isLt
  have fractionBound := (@unpackMantissa Format.binary64 bits).isLt
  unfold UnpackedFloat.unpack
  by_cases special : @unpackExponent Format.binary64 bits = -1#_
  · by_cases whole : @unpackMantissa Format.binary64 bits = 0#_
    · simp only [if_pos special, if_pos whole]
      rw [special, whole] at parts
      exact parts
    · simp only [if_pos special, if_neg whole]
      exact (valid.eq_packedNaN special whole).symm
  · by_cases small : @unpackExponent Format.binary64 bits = 0#_
    · by_cases whole : @unpackMantissa Format.binary64 bits = 0#_
      · simp only [if_neg special, if_pos small, dif_pos whole]
        rw [small, whole] at parts
        exact parts
      · simp only [if_neg special, if_pos small, dif_neg whole]
        rw [packSubnormal _ _ _ _ fractionBound (by rw [small]; rfl), BitVec.ofNat_toNat,
          BitVec.setWidth_eq]
        rw [small] at parts
        exact parts
    · simp only [if_neg special, if_neg small]
      have notLast : (@unpackExponent Format.binary64 bits).toNat ≠ 2047 := fun last =>
        special (BitVec.eq_of_toNat_eq last)
      have sum := implicitBit (@unpackMantissa Format.binary64 bits)
      change _ < 2 ^ 11 at fieldBound
      change _ < 2 ^ 52 at fractionBound
      have fraction : BitVec.ofNat Format.binary64.mantissaBitsWithoutImplicit
          (1#1 ++ @unpackMantissa Format.binary64 bits).toNat =
            @unpackMantissa Format.binary64 bits := by
        apply BitVec.eq_of_toNat_eq
        rw [BitVec.toNat_ofNat, sum]
        change (2 ^ 52 + _) % 2 ^ 52 = _
        omega
      refine Eq.trans (packNormal _ _ (@unpackExponent Format.binary64 bits).toNat _ _ (by omega)
        (by omega) rfl (by omega)) ?_
      rw [fraction, BitVec.ofNat_toNat, BitVec.setWidth_eq]
      exact parts

/-! ### Doubles -/

/-- Every double is made again from its bits. -/
theorem ofBitsToBits (value : Float) : Float.ofBits value.toBits = value := by
  obtain ⟨⟨bits, valid⟩⟩ := value
  have same := packUnpack bits.toBitVec valid
  unfold Float.ofBits Float.toBits Float.Model.ofBits Float.Model.pack
  congr 2
  exact congrArg UInt64.ofBitVec same

/-- The significand of a double has 53 bits unless its exponent is the least one. -/
structure Dyadic.IsDouble (number : Dyadic) : Prop where
  below : number.significand < 2 ^ 53
  least : leastExponent ≤ number.exponent
  most : number.exponent ≤ 971
  full : number.significand < 2 ^ 52 → number.exponent = leastExponent

/-- These are the bits of a double without its sign. -/
def Dyadic.magnitudeBits (number : Dyadic) : Nat :=
  if number.significand < 2 ^ 52 then number.significand
  else (number.exponent + 1075).toNat * 2 ^ 52 + (number.significand - 2 ^ 52)

theorem Dyadic.ofFloatParts (value : Float) (number : Dyadic) (found : ofFloat? value = some number) :
    number.IsDouble ∧ (if number.negative then number.magnitudeBits + 2 ^ 63
      else number.magnitudeBits) = value.toBits.toNat := by
  have bound := value.toBits.toNat_lt
  unfold ofFloat? at found
  generalize value.toBits.toNat = bits at found bound ⊢
  dsimp only at found
  by_cases special : bits / 2 ^ 52 % 2048 = 2047
  · rw [if_pos special] at found
    cases found
  rw [if_neg special] at found
  by_cases small : bits / 2 ^ 52 % 2048 = 0
  · rw [if_pos small] at found
    cases found
    refine ⟨⟨?_, Int.le_refl _, ?_, fun _ => rfl⟩, ?_⟩
    · show bits % 2 ^ 52 < 2 ^ 53
      omega
    · show (-1074 : Int) ≤ 971
      decide
    · simp only [magnitudeBits, decide_eq_true_eq, Nat.mod_lt bits (Nat.two_pow_pos 52), if_true]
      split <;> omega
  · rw [if_neg small] at found
    cases found
    have least : ¬bits % 2 ^ 52 + 2 ^ 52 < 2 ^ 52 := by omega
    refine ⟨⟨?_, ?_, ?_, fun less => absurd less least⟩, ?_⟩
    · show bits % 2 ^ 52 + 2 ^ 52 < 2 ^ 53
      omega
    · show (-1074 : Int) ≤ ((bits / 2 ^ 52 % 2048 : Nat) : Int) - 1075
      omega
    · show ((bits / 2 ^ 52 % 2048 : Nat) : Int) - 1075 ≤ 971
      omega
    · simp only [magnitudeBits, decide_eq_true_eq, if_neg least, Int.ofNat_eq_natCast]
      split <;> omega

/-- A finite double is given back by its sign and the bits of its magnitude. -/
theorem floatOfDyadic (value : Float) (number : Dyadic)
    (found : Dyadic.ofFloat? value = some number) :
    Float.ofBits (UInt64.ofNat (if number.negative then number.magnitudeBits + 2 ^ 63
      else number.magnitudeBits)) = value := by
  rw [(Dyadic.ofFloatParts value number found).2, UInt64.ofNat_toNat]
  exact ofBitsToBits value

/-! ### Finite doubles -/

theorem finiteUnpacked (bits : BitVec 64) :
    (UnpackedFloat.unpack Format.binary64 bits).isFinite = true ↔
      bits.toNat / 2 ^ 52 % 2048 ≠ 2047 := by
  have field := fieldOfBits bits
  unfold UnpackedFloat.unpack
  by_cases special : @unpackExponent Format.binary64 bits = -1#_
  · rw [special] at field
    have last : bits.toNat / 2 ^ 52 % 2048 = 2047 := field.symm
    by_cases whole : @unpackMantissa Format.binary64 bits = 0#_
    · simp only [if_pos special, if_pos whole, UnpackedFloat.isFinite]
      exact iff_of_false Bool.false_ne_true (not_not_intro last)
    · simp only [if_pos special, if_neg whole, UnpackedFloat.isFinite]
      exact iff_of_false Bool.false_ne_true (not_not_intro last)
  · have notLast : bits.toNat / 2 ^ 52 % 2048 ≠ 2047 := by
      rw [← field]
      exact fun last => special (BitVec.eq_of_toNat_eq last)
    simp only [if_neg special, iff_true_right notLast]
    by_cases small : @unpackExponent Format.binary64 bits = 0#_
    · by_cases whole : @unpackMantissa Format.binary64 bits = 0#_
      · simp only [if_pos small, dif_pos whole, UnpackedFloat.isFinite]
      · simp only [if_pos small, dif_neg whole, UnpackedFloat.isFinite]
    · simp only [if_neg small, UnpackedFloat.isFinite]

/-- Exactly the finite doubles are a sign, a significand and an exponent. -/
theorem dyadicOfFinite (value : Float) (isFinite : value.isFinite = true) :
    ∃ number, Dyadic.ofFloat? value = some number := by
  have notLast := (finiteUnpacked value.toBits.toBitVec).mp isFinite
  rw [UInt64.toNat_toBitVec] at notLast
  unfold Dyadic.ofFloat?
  simp only [if_neg notLast]
  split
  · exact ⟨_, rfl⟩
  · exact ⟨_, rfl⟩

/-- A double between two finite ones is finite. -/
theorem finiteOfProbability (value : Float) (least : (0 : Float) ≤ value) (most : value ≤ 1) :
    value.isFinite = true := by
  have above : (Float.toModel 0).unpack.le value.toModel.unpack = true := of_decide_eq_true least
  have below : value.toModel.unpack.le (Float.toModel 1).unpack = true := of_decide_eq_true most
  have zero : (Float.toModel 0).unpack = .zero .positive := by rfl
  have one : ∃ isPositive, (Float.toModel 1).unpack = .finite .positive (2 ^ 52) (-52) isPositive := ⟨by decide, by rfl⟩
  obtain ⟨isPositive, one⟩ := one
  rw [zero] at above
  rw [one] at below
  show value.toModel.unpack.isFinite = true
  cases parts : value.toModel.unpack with
  | notANumber =>
      rw [parts] at above
      cases above
  | infinity sign =>
      rw [parts] at above below
      cases sign with
      | negative => cases above
      | positive => cases below
  | zero sign => rfl
  | finite sign significand exponent isPositive => rfl

end DeskScript.Decimal
