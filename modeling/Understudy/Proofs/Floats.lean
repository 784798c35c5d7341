import Mathlib
import Understudy.Decimal.Binary
import Understudy.Decimal.Read

/-!
# Floats and their parts

The parts of a float are read off its bits. Here they are shown to be what the logical model of
floats unpacks it into, so that whether a number counts as at most zero is the comparison of floats,
and it is known which floats are no numbers: of what is spelled in a text, only the word for it, and
of what is made from whole numbers, none.

## Main definitions

* `partsOf`: what the parts of a float are of an unpacked one.

## Main statements

* `ofFloat_eq`: the parts of a float are those of what it is unpacked into.
* `le_zero_iff`, `zero_lt_iff`: when a float is at most zero, and when it is more.
* `isNaN_toFloat`: only the word for what is no number is read as such.
-/

namespace Understudy.Decimal

open Float.Model Float.Model.UnpackedFloat

/-! ## Taking floats apart -/

/-- What an unpacked float is, with the lowest exponent for a zero. -/
def partsOf : UnpackedFloat → Parts
  | .notANumber => .nan
  | .infinity sign => .infinite (sign == .negative)
  | .zero sign => .finite (sign == .negative) 0 (-1074)
  | .finite sign significand exponent _ => .finite (sign == .negative) significand exponent

theorem toNat_unpackMantissa (bits : UInt64) :
    (@unpackMantissa .binary64 bits.toBitVec).toNat = bits.toNat % Nat.pow 2 52 := by
  rw [unpackMantissa_def]
  simp [BitVec.extractLsb'_toNat]

theorem toNat_unpackExponent (bits : UInt64) :
    (@unpackExponent .binary64 bits.toBitVec).toNat =
      bits.toNat / Nat.pow 2 52 % Nat.pow 2 11 := by
  rw [unpackExponent_def]
  simp [BitVec.extractLsb'_toNat, Nat.shiftRight_eq_div_pow]

theorem ofBitVec_beq (b : BitVec 1) :
    (Sign.ofBitVec b == .negative) = decide (b.toNat = 1) := by
  decide +revert

theorem unpackSign_eq (bits : UInt64) :
    (Sign.ofBitVec (@unpackSign .binary64 bits.toBitVec) == .negative) =
      decide (Nat.pow 2 63 ≤ bits.toNat) := by
  have hbound := bits.toNat_lt
  have hbit : (BitVec.extractLsb' 63 1 bits.toBitVec).toNat = bits.toNat / 2 ^ 63 := by
    simp [BitVec.extractLsb'_toNat, Nat.shiftRight_eq_div_pow]
    omega
  rw [unpackSign_def, ofBitVec_beq]
  show decide ((BitVec.extractLsb' 63 1 bits.toBitVec).toNat = 1) = _
  rw [hbit, decide_eq_decide]
  simp only [Nat.pow_eq]
  omega

/-- The parts of a float are those that it is unpacked into. -/
theorem ofFloat_eq (x : Float) : Parts.ofFloat x = partsOf x.toModel.unpack := by
  have hmantissa := toNat_unpackMantissa x.toBits
  have hexponent := toNat_unpackExponent x.toBits
  have hsign := unpackSign_eq x.toBits
  show Parts.ofBits x.toBits = partsOf (UnpackedFloat.unpack .binary64 x.toBits.toBitVec)
  simp only [Parts.ofBits]
  rw [← hmantissa, ← hexponent, ← hsign]
  have hall {b : BitVec 11} : b = -1#11 ↔ b.toNat = 2047 := by
    rw [← BitVec.toNat_inj]
    rfl
  have hzero {b : BitVec 11} : b = 0#11 ↔ b.toNat = 0 := by
    rw [← BitVec.toNat_inj]
    rfl
  have hempty {b : BitVec 52} : b = 0#52 ↔ b.toNat = 0 := by
    rw [← BitVec.toNat_inj]
    rfl
  fun_cases UnpackedFloat.unpack with
  | case1 _ _ _ _ hexp hmant => rw [if_pos (hall.1 hexp), if_pos (hempty.1 hmant), partsOf]
  | case2 _ _ hexp hmant => rw [if_pos (hall.1 hexp), if_neg (mt hempty.2 hmant), partsOf]
  | case3 _ _ _ _ hexp hexp' hmant =>
    rw [if_neg (mt hall.2 hexp), if_pos (hzero.1 hexp'), hempty.1 hmant, partsOf]
  | case4 mantissa exponent power signBit sign hexp hexp' hmant =>
    rw [if_neg (mt hall.2 hexp), if_pos (hzero.1 hexp'), partsOf]
    have hpower : power = -1075 := by
      show ((exponent.toNat : Int) - _) = _
      rw [hzero.1 hexp']
      rfl
    rw [hpower]
    rfl
  | case5 mantissa exponent power signBit sign hexp hexp' =>
    rw [if_neg (mt hall.2 hexp), if_neg (mt hzero.2 hexp'), partsOf]
    have hwhole : (1#1 ++ mantissa).toNat = Nat.pow 2 52 + mantissa.toNat := by
      rw [BitVec.toNat_append, Nat.pow_eq, ← Nat.mul_one (2 ^ 52),
        Nat.two_pow_add_eq_or_of_lt mantissa.isLt 1]
      rfl
    rw [hwhole]
    rfl

/-! ## Comparing with zero -/

theorem unpack_zero : (0 : Float).toModel.unpack = .zero .positive := by
  have hbits : (0 : Float).toModel.toBits = 0 := by decide +kernel
  rw [Float.Model.unpack, hbits]
  exact @unpack_packedZero .binary64 .positive

/-- A number is at most zero exactly when its parts say so. -/
theorem le_zero_iff (x : Float) : x ≤ 0 ↔ (Parts.ofFloat x).atMostZero = true := by
  have hle : x ≤ 0 ↔
      UnpackedFloat.le x.toModel.unpack (0 : Float).toModel.unpack = true := decide_eq_true_iff
  rw [ofFloat_eq, hle, unpack_zero, UnpackedFloat.le]
  cases x.toModel.unpack with
  | infinity sign => cases sign <;> decide
  | notANumber => decide
  | zero sign => cases sign <;> decide
  | finite sign m e hm =>
    have hsome := Nat.ne_of_gt hm
    cases sign <;> simp [UnpackedFloat.compare, partsOf, Parts.atMostZero, hsome]

/-- What is not at most zero is more than zero, unless it is no number. -/
theorem zero_lt_iff (x : Float) : 0 < x ↔ ¬x ≤ 0 ∧ x.isNaN = false := by
  have hlt : 0 < x ↔
      UnpackedFloat.lt (0 : Float).toModel.unpack x.toModel.unpack = true := decide_eq_true_iff
  have hnan : x.isNaN = x.toModel.unpack.isNaN := rfl
  rw [le_zero_iff, ofFloat_eq, hlt, unpack_zero, hnan, UnpackedFloat.lt]
  cases x.toModel.unpack with
  | infinity sign => cases sign <;> decide
  | notANumber => decide
  | zero sign => cases sign <;> decide
  | finite sign m e hm =>
    have hsome := Nat.ne_of_gt hm
    cases sign <;>
      simp [UnpackedFloat.compare, partsOf, Parts.atMostZero, UnpackedFloat.isNaN, hsome]

/-! ## What is a number -/

/-- To pack a number makes no other thing of it. -/
@[simp] theorem isNaN_pack (u : UnpackedFloat) : (Float.Model.pack u).isNaN = u.isNaN := by
  rw [Bool.eq_iff_iff, Float.Model.isNaN, Float.Model.unpack,
    isNaN_unpack_iff_of_valid (Float.Model.pack u).valid]
  show UnpackedFloat.pack .binary64 u = packedNaN _ ↔ _
  -- An exponent or a significand of its own tells what was packed from what is no number.
  have hne {sign : Sign} {e : BitVec 11} {m : BitVec 52} (h : e ≠ -1#11 ∨ m = 0#52) :
      packComponents .binary64 sign e m ≠ packedNaN .binary64 := by
    intro heq
    have he := congrArg (@unpackExponent .binary64) heq
    have hm := congrArg (@unpackMantissa .binary64) heq
    rw [packedNaN, unpackExponent_packComponents, unpackExponent_packComponents] at he
    rw [packedNaN, unpackMantissa_packComponents, unpackMantissa_packComponents] at hm
    rcases h with h | rfl
    · exact h he
    · exact absurd hm (by decide)
  fun_cases UnpackedFloat.pack with
  | case1 => simp [UnpackedFloat.isNaN]
  | case2 s => exact iff_of_false (hne (.inr rfl)) (by simp [UnpackedFloat.isNaN])
  | case3 s => exact iff_of_false (hne (.inr rfl)) (by simp [UnpackedFloat.isNaN])
  | case4 s m e hm _ h => exact iff_of_false (hne (.inr rfl)) (by simp [UnpackedFloat.isNaN])
  | case5 s m e hm _ biased h =>
    refine iff_of_false (hne (.inl ?_)) (by simp [UnpackedFloat.isNaN])
    have hbiased : biased < 2047 := by
      have hbits : (2 : Nat) ^ Format.binary64.exponentBits = 2048 := rfl
      omega
    intro heq
    have htop : biased % 2048 = 2047 := congrArg BitVec.toNat heq
    omega
  | case6 => exact iff_of_false (hne (.inl (by decide))) (by simp [UnpackedFloat.isNaN])

@[simp] theorem isNaN_roundWithAccuracy (spec : Format) (sign : Sign) (m : Nat) (e : Int)
    (accuracy : Accuracy) : (roundWithAccuracy spec sign m e accuracy).isNaN = false := by
  simp only [roundWithAccuracy]
  split <;> rfl

@[simp] theorem isNaN_normalize (spec : Format) (m e : Int) (sign : Sign) :
    (UnpackedFloat.normalize spec m e sign).isNaN = false := by
  simp only [UnpackedFloat.normalize]
  split
  · exact isNaN_roundWithAccuracy ..
  · rfl
  · exact isNaN_roundWithAccuracy ..

/-- An unpacked number that is neither zero nor infinite. -/
def sized : UnpackedFloat → Bool
  | .finite .. => true
  | _ => false

theorem isNaN_mul_of_sized {spec : Format} {u v : UnpackedFloat} (h : sized v = true) :
    (UnpackedFloat.mul spec u v).isNaN = u.isNaN := by
  cases v with
  | finite => cases u <;> simp [UnpackedFloat.mul] <;> rfl
  | notANumber | infinity | zero => cases h

theorem isNaN_div_of_sized {spec : Format} {u v : UnpackedFloat} (h : sized v = true) :
    (UnpackedFloat.div spec u v).isNaN = u.isNaN := by
  cases v with
  | finite => cases u <;> simp [UnpackedFloat.div] <;> rfl
  | notANumber | infinity | zero => cases h

@[simp] theorem isNaN_neg (x : Float) : (-x).isNaN = x.isNaN := by
  show (Float.Model.pack x.toModel.unpack.neg).isNaN = x.toModel.unpack.isNaN
  rw [isNaN_pack]
  cases x.toModel.unpack <;> rfl

@[simp] theorem isNaN_ofUInt64 (n : UInt64) : n.toFloat.isNaN = false :=
  (isNaN_pack _).trans (isNaN_normalize ..)

/-- The powers of ten that floats hold exactly have a size. -/
theorem sized_powersOfTen :
    ∀ x ∈ Float.exactlyRepresentablePowersOfTen, sized x.toModel.unpack = true := by
  decide +kernel

@[simp] theorem isNaN_ofModel_ofScientific (m : Nat) (e : Int) :
    (Float.ofModel (Float.Model.ofScientific m e)).isNaN = false := by
  refine (isNaN_pack _).trans ?_
  simp only [UnpackedFloat.ofScientific]
  split_ifs
  · rfl
  · rfl
  · rfl
  · exact isNaN_mul_of_sized rfl
  · exact isNaN_div_of_sized rfl

/-- A decimal is a number. -/
@[simp] theorem isNaN_ofScientific (m : Nat) (negative : Bool) (e : Nat) :
    (Float.ofScientific m negative e).isNaN = false := by
  simp only [Float.ofScientific]
  split
  · rename_i hsmall
    have hplace : e < Float.exactlyRepresentablePowersOfTen.size := by
      simp only [Float.exactlyRepresentablePowersOfTen, List.size_toArray, List.length_cons,
        List.length_nil]
      omega
    have hsized := sized_powersOfTen _ (Array.getElem_mem hplace)
    have hnumber := isNaN_ofUInt64 m.toUInt64
    split
    · exact (isNaN_pack _).trans ((isNaN_div_of_sized hsized).trans hnumber)
    · exact (isNaN_pack _).trans ((isNaN_mul_of_sized hsized).trans hnumber)
  · exact isNaN_ofModel_ofScientific ..

@[simp] theorem isNaN_ofNat (n : Nat) : (Float.ofNat n).isNaN = false := isNaN_ofScientific ..

/-- A float that a whole number is nearest to is a number. -/
theorem isNaN_of_floatOfInt? {n : Int} {x : Float} (h : floatOfInt? n = some x) :
    x.isNaN = false := by
  have hnumber : (Float.ofInt n).isNaN = false := by
    cases n with
    | ofNat n => exact isNaN_ofNat n
    | negSucc n => exact (isNaN_neg _).trans (isNaN_ofNat _)
  simp only [floatOfInt?] at h
  split at h
  · cases h
  · rwa [← Option.some.inj h]

/-- Of all that can be spelled, only the word for what is no number is read as none. -/
theorem isNaN_toFloat (s : Spelling) : s.toFloat.isNaN = true ↔ s = .nan := by
  cases s with
  | nan => exact iff_of_true (by decide +kernel) rfl
  | infinite negative => cases negative <;> exact iff_of_false (by decide +kernel) nofun
  | number negative digits power =>
    have hinfinite : (1.0 / 0.0 : Float).isNaN = false := by decide +kernel
    have hzero : (0.0 : Float).isNaN = false := isNaN_ofScientific ..
    refine iff_of_false (Bool.eq_false_iff.1 ?_) nofun
    simp only [Spelling.toFloat]
    split_ifs <;> simp only [isNaN_neg, isNaN_ofNat, isNaN_ofScientific, hinfinite, hzero]

end Understudy.Decimal
