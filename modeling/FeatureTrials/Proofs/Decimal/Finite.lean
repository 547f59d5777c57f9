import Mathlib
import FeatureTrials.Decimal.Binary

/-!
# Integers as doubles

A whole number of 64 bits, with or without a sign, is a finite double (`isFinite_ofInt`). The
doubles are looked at through their exponents: one that is packed with an exponent of at most 971
stays finite, and rounding raises an exponent by no more than twice the length of the significand.

* `Moderate` — a number that is finite, with a bound of its exponent.
-/

namespace FeatureTrials.Decimal

open Float.Model (UnpackedFloat Format totalExponent)
open Float.Model.UnpackedFloat

/-- A finite number whose exponent is bounded. -/
def Moderate (bound : ℤ) : UnpackedFloat → Prop
  | .finite _ _ exponent _ => exponent ≤ bound
  | .zero _ => True
  | _ => False

instance (bound : ℤ) (x : UnpackedFloat) : Decidable (Moderate bound x) :=
  match x with
  | .finite _ _ exponent _ => inferInstanceAs (Decidable (exponent ≤ bound))
  | .zero _ => isTrue trivial
  | .infinity _ => isFalse id
  | .notANumber => isFalse id

theorem Moderate.mono {bound bound' : ℤ} {x : UnpackedFloat} (h : Moderate bound x)
    (le : bound ≤ bound') : Moderate bound' x := by
  cases x with
  | finite _ _ _ _ => exact Int.le_trans h le
  | _ => exact h

/-! ## Rounding -/

theorem mantissa_shiftRight (em : ExtendedMantissa) (n : ℕ) :
    (em >>> n).mantissa = em.mantissa / 2 ^ n := by
  induction n with
  | zero => exact (Nat.div_one _).symm
  | succ n ih =>
    have hstep : (em >>> (n + 1)).mantissa = (em >>> n).mantissa / 2 := rfl
    rw [hstep, ih, Nat.div_div_eq_div_mul, Nat.pow_succ]

theorem mantissa_ofMantissaAndAccuracy (m : ℕ) (a : Accuracy) :
    (ExtendedMantissa.ofMantissaAndAccuracy m a).mantissa = m := by
  cases a with
  | exact => rfl
  | inexact o => cases o <;> rfl

theorem le_roundedMantissa (em : ExtendedMantissa) : em.mantissa ≤ em.roundedMantissa := by
  obtain ⟨mantissa, round, sticky⟩ := em
  cases round <;> cases sticky <;>
    simp only [ExtendedMantissa.roundedMantissa, ExtendedMantissa.accuracy,
      Accuracy.roundToNearestEven] <;> omega

theorem roundedMantissa_le (em : ExtendedMantissa) : em.roundedMantissa ≤ em.mantissa + 1 := by
  obtain ⟨mantissa, round, sticky⟩ := em
  cases round <;> cases sticky <;>
    simp only [ExtendedMantissa.roundedMantissa, ExtendedMantissa.accuracy,
      Accuracy.roundToNearestEven] <;> omega

/-- A shift raises the exponent by no more than the length of the significand. -/
theorem exponent_shiftToTargetExponent_le {m : ℕ} {e bound : ℤ} {length : ℕ} (a : Accuracy)
    (he : e ≤ bound) (hbound : 0 ≤ bound) (hm : m < 2 ^ (length + 1)) :
    (shiftToTargetExponent Format.binary64 m e a).2 ≤ bound + length := by
  have hlog : m.log2 ≤ length := by
    rcases Nat.eq_zero_or_pos m with rfl | hpos
    · simp
    · have := (Nat.log2_lt hpos.ne').mpr hm
      omega
  -- the exponent never has to go beyond the one at which all bits of the significand are gone
  have htarget : Format.binary64.targetExponent (totalExponent m e) =
      max (m.log2 + 1 + e - 53) (-1074) := rfl
  simp only [shiftToTargetExponent, shiftToExponent, htarget]
  omega

theorem mantissa_shiftToTargetExponent_le (m : ℕ) (e : ℤ) (a : Accuracy) :
    (shiftToTargetExponent Format.binary64 m e a).1.mantissa ≤ m := by
  rw [shiftToTargetExponent, shiftToExponent, mantissa_shiftRight, mantissa_ofMantissaAndAccuracy]
  exact Nat.div_le_self _ _

/-- Rounding raises the exponent by no more than about twice the length of the significand. -/
theorem moderate_roundWithAccuracy (s : Sign) {m : ℕ} {e bound : ℤ} (length : ℕ) (a : Accuracy)
    (he : e ≤ bound) (hbound : 0 ≤ bound) (hm : m < 2 ^ (length + 1)) :
    Moderate (bound + 2 * length + 1) (roundWithAccuracy Format.binary64 s m e a) := by
  have hfirst := exponent_shiftToTargetExponent_le a he hbound hm
  have hmantissa := mantissa_shiftToTargetExponent_le m e a
  have hrounded := roundedMantissa_le (shiftToTargetExponent Format.binary64 m e a).1
  rw [roundWithAccuracy]
  generalize shiftToTargetExponent Format.binary64 m e a = first at *
  obtain ⟨em, e₁⟩ := first
  dsimp only at *
  have hlong : em.roundedMantissa < 2 ^ (length + 1 + 1) := by
    rw [Nat.pow_succ]
    omega
  -- rounding up may have made the significand one bit longer, so it is shifted once more
  have hsecond := exponent_shiftToTargetExponent_le .exact hfirst (by omega) hlong
  generalize shiftToTargetExponent Format.binary64 em.roundedMantissa e₁ .exact = second at *
  obtain ⟨em', e₂⟩ := second
  dsimp only at *
  split
  · trivial
  · simp only [Moderate]
    omega

/-! ## Packing -/

theorem isFinite_of_moderate {bound : ℤ} {x : UnpackedFloat} (h : Moderate bound x) :
    x.isFinite = true := by
  cases x with
  | infinity _ => cases h
  | notANumber => cases h
  | _ => rfl

/-- Components whose exponent bits are not all ones are those of a finite number. -/
theorem moderate_packComponents (s : Sign) (biased : ℕ) (m : BitVec 52) (h : biased < 2047) :
    Moderate (biased - 1074)
      (unpack Format.binary64
        (packComponents Format.binary64 s (BitVec.ofNat 11 biased) m)) := by
  have hne : BitVec.ofNat 11 biased ≠ -1#11 := by
    intro heq
    have := congrArg BitVec.toNat heq
    simp only [BitVec.toNat_ofNat, BitVec.toNat_neg] at this
    omega
  have hbias : (Format.binary64.exponentBias : ℤ) + (52 : ℕ) = 1075 := rfl
  simp only [unpack, unpackExponent_packComponents, unpackMantissa_packComponents, hne, if_false]
  split
  · split
    · trivial
    · simp only [Moderate, BitVec.toNat_ofNat]
      omega
  · simp only [Moderate, BitVec.toNat_ofNat]
    omega

/-- A number that is packed with a moderate exponent stays finite. -/
theorem moderate_unpack_pack {bound : ℤ} {x : UnpackedFloat} (h : Moderate bound x)
    (positive : 0 ≤ bound) (small : bound ≤ 971) :
    Moderate (bound + 1) (Float.Model.pack x).unpack := by
  cases x with
  | infinity _ => cases h
  | notANumber => cases h
  | zero s =>
    refine (moderate_packComponents s 0 0 (by decide)).mono ?_
    omega
  | finite s m e hm =>
    have he : e ≤ bound := h
    have hbiased : (e + Format.binary64.exponentBias + (52 : ℕ)).toNat = (e + 1075).toNat :=
      congrArg Int.toNat (Int.add_assoc e 1023 52)
    have hpack : (Float.Model.pack (.finite s m e hm)).unpack =
        unpack Format.binary64 (pack Format.binary64 (.finite s m e hm)) := rfl
    rw [hpack, pack]
    simp only [hbiased]
    split
    · omega
    · split
      · refine (moderate_packComponents s (e + 1075).toNat (BitVec.ofNat _ m) ?_).mono ?_
        all_goals omega
      · refine (moderate_packComponents s 0 (BitVec.ofNat _ m) (by decide)).mono ?_
        omega

theorem moderate_pack_zero (s : Sign) : Moderate 1 (Float.Model.pack (.zero s)).unpack := by
  have hzero : Moderate 0 (.zero s) := trivial
  exact moderate_unpack_pack hzero (by decide) (by decide)

/-- A finite double has a significand of at most 53 bits and a moderate exponent. -/
theorem moderate_unpack {x : Float.Model} (h : x.unpack.isFinite = true) :
    Moderate 971 x.unpack ∧ ∀ s m e hm, x.unpack = .finite s m e hm → m < 2 ^ 53 := by
  have hbias : (Format.binary64.exponentBias : ℤ) + (52 : ℕ) = 1075 := rfl
  have hones : @unpackExponent Format.binary64 x.toBits.toBitVec ≠ -1#11 →
      (@unpackExponent Format.binary64 x.toBits.toBitVec).toNat < 2047 := by
    intro hne
    have hlt : (@unpackExponent Format.binary64 x.toBits.toBitVec).toNat < 2048 :=
      BitVec.isLt _
    have hne' : (@unpackExponent Format.binary64 x.toBits.toBitVec).toNat ≠ 2047 :=
      fun heq => hne (BitVec.eq_of_toNat_eq heq)
    omega
  have hlong : (@unpackMantissa Format.binary64 x.toBits.toBitVec).toNat < 2 ^ 52 :=
    BitVec.isLt _
  rw [Float.Model.unpack, unpack] at h ⊢
  simp only [hbias] at h ⊢
  split
  · next heq =>
    rw [if_pos heq] at h
    split at h <;> cases h
  · next hne =>
    have hlt := hones hne
    have hnormal : ((@unpackExponent Format.binary64 x.toBits.toBitVec).toNat : ℤ) -
        1075 ≤ 971 := by omega
    split
    · split
      · exact ⟨trivial, fun _ _ _ _ heq => nomatch heq⟩
      · next hzero _ =>
        refine ⟨?_, fun s m e hm heq => ?_⟩
        · rw [hzero]
          exact (by decide : (0 : ℤ) - 1075 + 1 ≤ 971)
        · cases heq
          exact hlong.trans (by decide)
    · refine ⟨hnormal, fun s m e hm heq => ?_⟩
      cases heq
      exact BitVec.isLt _

/-! ## Products and integers -/

/-- A rounded significand of at most 128 bits with a moderate exponent is a finite double. -/
theorem moderate_pack_round (s : Sign) {m : ℕ} {e : ℤ} (bound : ℤ) (he : e ≤ bound)
    (hbound : 0 ≤ bound) (small : bound ≤ 700) (hm : m < 2 ^ 128) :
    Moderate (bound + 256)
      (Float.Model.pack (roundWithAccuracy Format.binary64 s m e .exact)).unpack := by
  have hround := moderate_roundWithAccuracy s 127 .exact he hbound hm
  exact (moderate_unpack_pack hround (by omega) (by omega)).mono (by omega)

theorem isFinite_mul {x y : Float.Model} {b c : ℤ} (hx : Moderate b x.unpack)
    (hy : Moderate c y.unpack) (hb : 0 ≤ b) (hc : 0 ≤ c) (small : b + c ≤ 700) :
    (x.mul y).isFinite = true := by
  have hmx := (moderate_unpack (isFinite_of_moderate hx)).2
  have hmy := (moderate_unpack (isFinite_of_moderate hy)).2
  rw [Float.Model.mul, Float.Model.isFinite]
  generalize x.unpack = u at hx hmx
  generalize y.unpack = v at hy hmy
  cases u with
  | infinity _ => cases hx
  | notANumber => cases hx
  | zero s =>
    cases v with
    | infinity _ => cases hy
    | notANumber => cases hy
    | _ => exact isFinite_of_moderate (moderate_pack_zero _)
  | finite s m e hm =>
    cases v with
    | infinity _ => cases hy
    | notANumber => cases hy
    | zero _ => exact isFinite_of_moderate (moderate_pack_zero _)
    | finite s' m' e' hm' =>
      have he : e + e' ≤ b + c := Int.add_le_add hx hy
      have hproduct : m * m' < 2 ^ 128 :=
        (Nat.mul_lt_mul'' (hmx _ _ _ _ rfl) (hmy _ _ _ _ rfl)).trans (by decide)
      exact isFinite_of_moderate (moderate_pack_round (s * s') _ he (by omega) small hproduct)

theorem moderate_ofUInt64 (n : UInt64) : Moderate 256 (Float.Model.ofUInt64 n).unpack := by
  have hn : n.toNat < 2 ^ 64 := n.toNat_lt
  rw [Float.Model.ofUInt64, Float.Model.UnpackedFloat.ofUInt64, Float.Model.UnpackedFloat.ofNat,
    Float.Model.UnpackedFloat.ofInt, Float.Model.UnpackedFloat.normalize]
  rcases Nat.eq_zero_or_pos n.toNat with hzero | hpos
  · rw [hzero]
    exact (moderate_pack_zero .positive).mono (by decide)
  · have hcompare : compare (n.toNat : ℤ) 0 = .gt := by
      rw [compare_gt_iff_gt]
      omega
    have htarget : Format.binary64.targetExponent (totalExponent n.toNat 0) =
        max ((n.toNat.log2 : ℤ) + 1 + 0 - 53) (-1074) := rfl
    rw [hcompare]
    dsimp only
    rw [Int.toNat_natCast, Float.Model.UnpackedFloat.round, decreaseExponent, htarget]
    dsimp only
    generalize hshift : ((0 : ℤ) - max ((n.toNat.log2 : ℤ) + 1 + 0 - 53) (-1074)).toNat = shift
    have hshift' : shift ≤ 52 := by omega
    refine moderate_pack_round .positive 0 (by omega) (by decide) (by decide) ?_
    rw [Nat.shiftLeft_eq]
    calc n.toNat * 2 ^ shift ≤ n.toNat * 2 ^ 52 :=
          Nat.mul_le_mul_left _ (Nat.pow_le_pow_right (by decide) hshift')
      _ < 2 ^ 64 * 2 ^ 52 := Nat.mul_lt_mul_of_pos_right hn (by decide)
      _ ≤ 2 ^ 128 := by decide

/-- A whole number is rounded from a significand that is longer than needed. -/
theorem ofScientific_eq_round {n : ℕ} (hn : n ≠ 0) :
    Float.Model.ofScientific n 0 = Float.Model.pack
      (roundWithAccuracy Format.binary64 .positive (n * 2 ^ 53) (-53) .exact) := by
  have hlarge : ¬ (0 : ℤ) > 2 ^ Format.binary64.exponentBits := by decide
  have hsmall : ¬ (0 : ℤ) < -((2 ^ Format.binary64.exponentBits : ℤ) + n.log2) := by
    have : (0 : ℤ) ≤ 2 ^ Format.binary64.exponentBits := by positivity
    omega
  have hbits : Format.binary64.mantissaBits = 53 := rfl
  rw [Float.Model.ofScientific, Float.Model.UnpackedFloat.ofScientific, dif_neg hn, if_neg hlarge,
    if_neg hsmall, if_pos (Int.le_refl 0), Float.Model.UnpackedFloat.mul]
  simp only [hbits, Nat.shiftLeft_eq, Int.toNat_zero, Nat.pow_zero, Nat.mul_one]
  rfl

theorem moderate_ofScientific {n : ℕ} (hn : n ≠ 0) (h : n < 2 ^ 64) :
    Moderate 256 (Float.Model.ofScientific n 0).unpack := by
  rw [ofScientific_eq_round hn]
  refine moderate_pack_round _ 0 (by decide) (by decide) (by decide) ?_
  calc n * 2 ^ 53 < 2 ^ 64 * 2 ^ 53 := Nat.mul_lt_mul_of_pos_right h (by decide)
    _ ≤ 2 ^ 128 := by decide

/-- A natural number below `2 ^ 64` is a finite double. -/
theorem isFinite_ofNat {n : ℕ} (h : n < 2 ^ 64) : (Float.ofNat n).isFinite = true := by
  have hscientific : Float.ofNat n = Float.ofScientific n false 0 := rfl
  rw [hscientific, Float.ofScientific]
  split
  · have hone : Moderate 0 (Float.ofBits 0x3FF0000000000000).toModel.unpack := by
      decide +kernel
    exact isFinite_mul (moderate_ofUInt64 _) hone (by decide) (by decide) (by decide)
  · exact isFinite_of_moderate (moderate_ofScientific (by omega) h)

theorem isFinite_neg {x : Float} (h : x.isFinite = true) : (-x).isFinite = true := by
  have hx := (moderate_unpack h).1
  have hneg : Moderate 971 x.toModel.unpack.neg := by
    generalize x.toModel.unpack = u at hx
    cases u <;> exact hx
  exact isFinite_of_moderate (moderate_unpack_pack hneg (by decide) (by decide))

/-- A whole number of 64 bits is a finite double. -/
theorem isFinite_ofInt {n : ℤ} (low : -2 ^ 63 ≤ n) (high : n < 2 ^ 64) :
    (Float.ofInt n).isFinite = true := by
  cases n with
  | ofNat n =>
    rw [Int.ofNat_eq_natCast] at high
    exact isFinite_ofNat (by omega)
  | negSucc n => exact isFinite_neg (isFinite_ofNat (by omega))

end FeatureTrials.Decimal
