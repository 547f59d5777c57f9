import Mathlib
import FeatureTrials.Proofs.Decimal.Finite
import FeatureTrials.Proofs.Decimal.Order

/-!
# The rounding of doubles

An operation on doubles that are not negative gives the exact result up to the distance of two
neighbouring doubles: a relative error of at most `2 ^ -52`, to which a product or a quotient adds
at most the least positive double, `2 ^ -1074`. A sum has no such addition.

* `Exactly` — a double that is not negative and its value.
* `Near` — a double that differs from a value by no more than an error, or is infinite because no
  finite double is as large.
* `near_add`, `near_mul`, `near_div` — the operations.
-/

namespace FeatureTrials.Decimal

open Float.Model (UnpackedFloat Format totalExponent)
open Float.Model.UnpackedFloat

/-! ## Values -/

/-- The number is finite, not negative, and has the value. -/
def Exactly (q : ℚ) : UnpackedFloat → Prop
  | .zero _ => q = 0
  | .finite .positive m e _ => q = m * 2 ^ e
  | _ => False

/-- The significand has 53 bits, or fewer at the least exponent. -/
def Normal : UnpackedFloat → Prop
  | .finite _ m e _ => m < 2 ^ 53 ∧ -1074 ≤ e ∧ (2 ^ 52 ≤ m ∨ e = -1074)
  | _ => True

/-- The relative distance of neighbouring doubles. -/
def unit : ℚ := 2 ^ (-52 : ℤ)

/-- The least positive double. -/
def least : ℚ := 2 ^ (-1074 : ℤ)

/-- A value below which every number is finite. -/
def large : ℚ := 2 ^ (972 : ℤ)

theorem unit_eq : unit = 1 / 2 ^ 52 := by
  rw [unit]
  norm_num

theorem unit_pos : 0 < unit := by
  rw [unit]
  positivity

theorem least_pos : 0 < least := by
  rw [least]
  positivity

theorem Exactly.nonneg {q : ℚ} {x : UnpackedFloat} (h : Exactly q x) : 0 ≤ q := by
  rcases x with _ | _ | _ | ⟨_ | _, m, e, hm⟩
  · cases h
  · cases h
  · exact h.ge
  · cases h
  · rw [show q = m * 2 ^ e from h]
    positivity

/-! ## Rounding -/

/-- The exponent at which a significand has 53 bits, or fewer if there is none so small. -/
def target (m : ℕ) (e : ℤ) : ℤ := max (m.log2 + 1 + e - 53) (-1074)

/-- The significand is long enough, or the exponent small enough, that nothing but rounding is to
be done. -/
def Long (m : ℕ) (e : ℤ) : Prop := 2 ^ 52 ≤ m ∨ e ≤ -1074

theorem shiftToTargetExponent_eq (m : ℕ) (e : ℤ) (a : Accuracy) :
    shiftToTargetExponent Format.binary64 m e a =
      (ExtendedMantissa.ofMantissaAndAccuracy m a >>> (target m e - e).toNat,
        e + (target m e - e).toNat) := rfl

variable {m : ℕ} {e : ℤ}

theorem Long.le_target (h : Long m e) : e ≤ target m e := by
  rw [target]
  rcases h with hm | he
  · have hlog : 52 ≤ m.log2 := (Nat.le_log2 (by omega)).mpr hm
    omega
  · omega

theorem Long.div_lt (h : Long m e) : m / 2 ^ (target m e - e).toNat < 2 ^ 53 := by
  have hle := h.le_target
  have hshift : m.log2 + 1 ≤ (target m e - e).toNat + 53 := by
    rw [target] at hle ⊢
    omega
  refine Nat.div_lt_of_lt_mul ?_
  calc m < 2 ^ (m.log2 + 1) := Nat.lt_log2_self
    _ ≤ 2 ^ ((target m e - e).toNat + 53) := Nat.pow_le_pow_right (by decide) hshift
    _ = 2 ^ (target m e - e).toNat * 2 ^ 53 := Nat.pow_add ..

theorem Long.ne_zero (h : Long m e) (ht : target m e ≠ -1074) : m ≠ 0 := by
  rintro rfl
  rcases h with h | h
  · omega
  · rw [target, Nat.log2_zero] at ht
    omega

theorem Long.le_div (h : Long m e) (ht : target m e ≠ -1074) :
    2 ^ 52 ≤ m / 2 ^ (target m e - e).toNat := by
  have hle := h.le_target
  have hlog : 52 ≤ m.log2 := by
    rw [target] at hle ht
    omega
  have hshift : (target m e - e).toNat + 52 = m.log2 := by
    rw [target] at hle ht ⊢
    omega
  rw [Nat.le_div_iff_mul_le (by positivity), ← Nat.pow_add, Nat.add_comm, hshift]
  exact Nat.log2_self_le (h.ne_zero ht)

/-- The number without the last bits of its significand. -/
def cut (r : ℕ) (t : ℤ) (bits : ℕ) : UnpackedFloat :=
  if h : r / 2 ^ bits = 0 then .zero .positive
  else .finite .positive (r / 2 ^ bits) (t + bits) (Nat.pos_of_ne_zero h)

/-- The last step of rounding: rounding up may have made the significand one bit too long. -/
def recut (r : ℕ) (t : ℤ) : UnpackedFloat := cut r t (target r t - t).toNat

theorem roundWithAccuracy_eq_recut (h : Long m e) (a : Accuracy) :
    roundWithAccuracy Format.binary64 .positive m e a =
      recut (ExtendedMantissa.ofMantissaAndAccuracy m a >>>
        (target m e - e).toNat).roundedMantissa (target m e) := by
  have hshift : e + (target m e - e).toNat = target m e := by
    have := h.le_target
    omega
  rw [roundWithAccuracy, shiftToTargetExponent_eq]
  dsimp only
  rw [hshift, shiftToTargetExponent_eq]
  dsimp only
  rw [mantissa_shiftRight, mantissa_ofMantissaAndAccuracy]
  rfl

/-- Nothing is lost in the last step, since a significand that is too long is a power of two. -/
theorem exactly_recut {r : ℕ} {t : ℤ} (low : -1074 ≤ t) (high : r ≤ 2 ^ 53)
    (long : t ≠ -1074 → 2 ^ 52 ≤ r) : Exactly (r * 2 ^ t) (recut r t) ∧ Normal (recut r t) := by
  rcases high.lt_or_eq with hr | rfl
  · have hlog : r.log2 ≤ 52 := by
      rcases Nat.eq_zero_or_pos r with rfl | hpos
      · simp
      · have := (Nat.log2_lt hpos.ne').mpr hr
        omega
    have hsame : (target r t - t).toNat = 0 := by
      rw [target]
      omega
    rw [recut, hsame, cut]
    simp only [Nat.pow_zero, Nat.div_one, Nat.cast_zero, Int.add_zero]
    split
    · next hzero => exact ⟨by simp [Exactly, hzero], trivial⟩
    · refine ⟨rfl, hr, low, ?_⟩
      by_cases ht : t = -1074
      · exact .inr ht
      · exact .inl (long ht)
  · have hnext : (target (2 ^ 53) t - t).toNat = 1 := by
      rw [target, Nat.log2_two_pow]
      omega
    rw [recut, hnext, cut, dif_neg (by decide)]
    refine ⟨?_, by decide, by omega, .inl (by decide)⟩
    have hcast : ((2 ^ 53 / 2 ^ 1 : ℕ) : ℚ) = 2 ^ 52 := by norm_num
    rw [Exactly, hcast, Nat.cast_one, zpow_add_one₀ (by norm_num)]
    push_cast
    ring

/-- Rounding takes the significand at the target exponent, or the next one. -/
theorem exists_roundWithAccuracy (h : Long m e) (a : Accuracy) :
    ∃ r : ℕ, m / 2 ^ (target m e - e).toNat ≤ r ∧ r ≤ m / 2 ^ (target m e - e).toNat + 1 ∧
      (a = .exact → target m e = e → r = m) ∧
      Exactly (r * 2 ^ target m e) (roundWithAccuracy Format.binary64 .positive m e a) ∧
      Normal (roundWithAccuracy Format.binary64 .positive m e a) := by
  have hmantissa : (ExtendedMantissa.ofMantissaAndAccuracy m a >>>
      (target m e - e).toNat).mantissa = m / 2 ^ (target m e - e).toNat := by
    rw [mantissa_shiftRight, mantissa_ofMantissaAndAccuracy]
  have hge := le_roundedMantissa
    (ExtendedMantissa.ofMantissaAndAccuracy m a >>> (target m e - e).toNat)
  have hle := roundedMantissa_le
    (ExtendedMantissa.ofMantissaAndAccuracy m a >>> (target m e - e).toNat)
  rw [hmantissa] at hge hle
  refine ⟨_, hge, hle, ?_, ?_⟩
  · rintro rfl heq
    rw [heq, Int.sub_self]
    rfl
  · rw [roundWithAccuracy_eq_recut h a]
    exact exactly_recut (le_max_right _ _) (hle.trans h.div_lt) fun ht => (h.le_div ht).trans hge

theorem Long.two_zpow_target (h : Long m e) :
    (2 : ℚ) ^ target m e = 2 ^ (target m e - e).toNat * 2 ^ e := by
  have hshift : ((target m e - e).toNat : ℤ) + e = target m e := by
    have := h.le_target
    omega
  rw [← zpow_natCast, ← zpow_add₀ (by norm_num), hshift]

/-- A rounded significand is off by no more than one at the target exponent. -/
theorem Long.abs_sub_le (h : Long m e) {r : ℕ} {q : ℚ}
    (low : m / 2 ^ (target m e - e).toNat ≤ r) (high : r ≤ m / 2 ^ (target m e - e).toNat + 1)
    (le : m * 2 ^ e ≤ q) (lt : q < (m + 1) * 2 ^ e) :
    |r * 2 ^ target m e - q| ≤ 2 ^ target m e := by
  have hbelow : 2 ^ (target m e - e).toNat * (m / 2 ^ (target m e - e).toNat) ≤ m :=
    Nat.mul_div_le _ _
  have habove : m + 1 ≤ 2 ^ (target m e - e).toNat * (m / 2 ^ (target m e - e).toNat + 1) :=
    Nat.lt_mul_div_succ m (by positivity)
  have hcast : (2 : ℚ) ^ (target m e - e).toNat = ((2 ^ (target m e - e).toNat : ℕ) : ℚ) := by
    norm_cast
  have hpos : (0 : ℚ) < 2 ^ e := by positivity
  rw [h.two_zpow_target, hcast]
  generalize 2 ^ (target m e - e).toNat = p at *
  generalize m / p = d at *
  generalize (2 : ℚ) ^ e = scale at *
  have hstep : (0 : ℚ) ≤ p * scale := mul_nonneg p.cast_nonneg hpos.le
  have hlow : d * (p * scale) ≤ q := by
    calc (d : ℚ) * (p * scale) = (p * d : ℕ) * scale := by push_cast; ring
      _ ≤ m * scale := mul_le_mul_of_nonneg_right (Nat.cast_le.mpr hbelow) hpos.le
      _ ≤ q := le
  have hhigh : q ≤ (d + 1) * (p * scale) := by
    calc q ≤ (m + 1 : ℕ) * scale := by
          push_cast
          exact lt.le
      _ ≤ (p * (d + 1) : ℕ) * scale := mul_le_mul_of_nonneg_right (Nat.cast_le.mpr habove) hpos.le
      _ = (d + 1) * (p * scale) := by push_cast; ring
  have hrlow : (d : ℚ) * (p * scale) ≤ r * (p * scale) :=
    mul_le_mul_of_nonneg_right (Nat.cast_le.mpr low) hstep
  have hrhigh : (r : ℚ) * (p * scale) ≤ (d + 1) * (p * scale) :=
    mul_le_mul_of_nonneg_right (by exact_mod_cast high) hstep
  rw [abs_le]
  constructor <;> linarith

/-- Where the target exponent is not the least one, the distance of neighbours is relative. -/
theorem two_zpow_target_le (hm : m ≠ 0) (ht : target m e ≠ -1074) :
    (2 : ℚ) ^ target m e ≤ unit * (m * 2 ^ e) := by
  have htarget : target m e = -52 + (m.log2 + e) := by
    rw [target] at ht ⊢
    omega
  have hlog : (2 : ℚ) ^ m.log2 ≤ m := by exact_mod_cast Nat.log2_self_le hm
  rw [htarget, zpow_add₀ (by norm_num), zpow_add₀ (by norm_num), unit, zpow_natCast]
  gcongr

/-- The value of a rounded number whose exact value may have a part after the significand. -/
theorem exists_near (h : Long m e) (a : Accuracy) {q : ℚ} (le : m * 2 ^ e ≤ q)
    (lt : q < (m + 1) * 2 ^ e) :
    ∃ v, |v - q| ≤ unit * q + least ∧
      Exactly v (roundWithAccuracy Format.binary64 .positive m e a) ∧
      Normal (roundWithAccuracy Format.binary64 .positive m e a) := by
  obtain ⟨r, low, high, -, hexactly, hnormal⟩ := exists_roundWithAccuracy h a
  refine ⟨_, (h.abs_sub_le low high le lt).trans ?_, hexactly, hnormal⟩
  have hq : 0 ≤ q := le.trans' (by positivity)
  have hunit : 0 ≤ unit * q := mul_nonneg unit_pos.le hq
  by_cases ht : target m e = -1074
  · rw [ht, ← least]
    linarith
  · calc (2 : ℚ) ^ target m e ≤ unit * (m * 2 ^ e) := two_zpow_target_le (h.ne_zero ht) ht
      _ ≤ unit * q := mul_le_mul_of_nonneg_left le unit_pos.le
      _ ≤ unit * q + least := le_add_of_nonneg_right least_pos.le

/-- A number whose significand is exact is rounded with a relative error only, if its exponent is
not too small. -/
theorem exists_near_exact (h : Long m e) (he : -1074 ≤ e) :
    ∃ v, |v - m * (2 : ℚ) ^ e| ≤ unit * (m * 2 ^ e) ∧
      Exactly v (roundWithAccuracy Format.binary64 .positive m e .exact) ∧
      Normal (roundWithAccuracy Format.binary64 .positive m e .exact) := by
  obtain ⟨r, low, high, hsame, hexactly, hnormal⟩ := exists_roundWithAccuracy h .exact
  refine ⟨_, ?_, hexactly, hnormal⟩
  have hpos : (0 : ℚ) < 2 ^ e := by positivity
  by_cases heq : target m e = e
  · rw [hsame rfl heq, heq, sub_self, abs_zero]
    exact mul_nonneg unit_pos.le (by positivity)
  · have ht : target m e ≠ -1074 := by
      have := h.le_target
      omega
    refine (h.abs_sub_le low high le_rfl ?_).trans (two_zpow_target_le (h.ne_zero ht) ht)
    linarith

/-- Where the significand is short, rounding first makes it long, which changes nothing. -/
theorem exists_near_round (hm : m ≠ 0) (he : -1074 ≤ e) :
    ∃ v, |v - m * (2 : ℚ) ^ e| ≤ unit * (m * 2 ^ e) ∧
      Exactly v (UnpackedFloat.round Format.binary64 .positive m e) ∧
      Normal (UnpackedFloat.round Format.binary64 .positive m e) := by
  have hround : UnpackedFloat.round Format.binary64 .positive m e =
      roundWithAccuracy Format.binary64 .positive (m <<< (e - target m e).toNat)
        (e - (e - target m e).toNat) .exact := rfl
  have hlong : Long (m * 2 ^ (e - target m e).toNat) (e - (e - target m e).toNat) := by
    by_cases ht : target m e = -1074
    · right
      omega
    · left
      have hlog : 52 ≤ m.log2 + (e - target m e).toNat := by
        rw [target] at ht ⊢
        omega
      calc 2 ^ 52 ≤ 2 ^ (m.log2 + (e - target m e).toNat) := Nat.pow_le_pow_right (by decide) hlog
        _ = 2 ^ m.log2 * 2 ^ (e - target m e).toNat := Nat.pow_add ..
        _ ≤ m * 2 ^ (e - target m e).toNat := Nat.mul_le_mul_right _ (Nat.log2_self_le hm)
  have hlow : -1074 ≤ e - (e - target m e).toNat := by
    rw [target]
    omega
  have hvalue : ((m * 2 ^ (e - target m e).toNat : ℕ) : ℚ) * 2 ^ (e - (e - target m e).toNat) =
      m * 2 ^ e := by
    rw [zpow_sub₀ (by norm_num), zpow_natCast]
    push_cast
    field_simp
  rw [hround, Nat.shiftLeft_eq]
  exact hvalue ▸ exists_near_exact hlong hlow

/-! ## Packing -/

theorem unpackSign_packComponents {spec : Format} (s : Sign) (exponent : BitVec spec.exponentBits)
    (mantissa : BitVec spec.mantissaBitsWithoutImplicit) :
    unpackSign (packComponents spec s exponent mantissa) = s.toBitVec := by
  ext i hi
  have hzero : i = 0 := by omega
  simp [unpackSign, packComponents, BitVec.getLsbD_append, BitVec.getElem_append, hzero]

theorem toNat_one_append (mantissa : BitVec 52) :
    (1#1 ++ mantissa).toNat = 2 ^ 52 + mantissa.toNat := by
  rw [BitVec.toNat_append, BitVec.toNat_one (by decide), ← Nat.shiftLeft_add_eq_or_of_lt
    mantissa.isLt, Nat.shiftLeft_eq, Nat.one_mul]

theorem exactly_packComponents_zero (mantissa : BitVec 52) :
    Exactly (mantissa.toNat * 2 ^ (-1074 : ℤ))
      (unpack Format.binary64 (packComponents Format.binary64 .positive 0#11 mantissa)) := by
  have hones : (0#11 : BitVec 11) ≠ -1#11 := by decide
  simp only [unpack, unpackExponent_packComponents, unpackMantissa_packComponents,
    unpackSign_packComponents, hones, if_false, if_true]
  split
  · next hzero => simp [Exactly, hzero]
  · rfl

theorem exactly_packComponents (biased : ℕ) (mantissa : BitVec 52) (low : 0 < biased)
    (high : biased < 2047) :
    Exactly ((2 ^ 52 + mantissa.toNat : ℕ) * 2 ^ (biased - 1075 : ℤ))
      (unpack Format.binary64
        (packComponents Format.binary64 .positive (BitVec.ofNat 11 biased) mantissa)) := by
  have hvalue : (BitVec.ofNat 11 biased).toNat = biased := by
    rw [BitVec.toNat_ofNat]
    omega
  have hones : BitVec.ofNat 11 biased ≠ -1#11 := by
    intro heq
    rw [heq] at hvalue
    simp only [BitVec.toNat_neg, BitVec.toNat_ofNat] at hvalue
    omega
  have hzero : BitVec.ofNat 11 biased ≠ 0#11 := by
    intro heq
    rw [heq, BitVec.toNat_ofNat] at hvalue
    omega
  have hbias : (Format.binary64.exponentBias : ℤ) + (52 : ℕ) = 1075 := rfl
  simp only [unpack, unpackExponent_packComponents, unpackMantissa_packComponents,
    unpackSign_packComponents, hones, hzero, if_false, hbias, hvalue]
  rw [← toNat_one_append]
  rfl

/-- A significand of 53 bits is packed without its first bit. -/
theorem exactly_packComponents_of_long (long : 2 ^ 52 ≤ m) (hm : m < 2 ^ 53) (low : -1074 ≤ e)
    (high : e < 972) :
    Exactly (m * 2 ^ e) (unpack Format.binary64 (packComponents Format.binary64 .positive
      (BitVec.ofNat 11 (e + 1075).toNat) (BitVec.ofNat 52 m))) := by
  have hvalue : 2 ^ 52 + (BitVec.ofNat 52 m).toNat = m := by
    rw [BitVec.toNat_ofNat]
    omega
  have hexponent : ((e + 1075).toNat : ℤ) - 1075 = e := by omega
  have hpacked :=
    exactly_packComponents (e + 1075).toNat (BitVec.ofNat 52 m) (by omega) (by omega)
  rwa [hvalue, hexponent] at hpacked

/-- A shorter one is packed as it is. -/
theorem exactly_packComponents_of_short (short : m < 2 ^ 52) :
    Exactly (m * 2 ^ (-1074 : ℤ)) (unpack Format.binary64
      (packComponents Format.binary64 .positive 0#11 (BitVec.ofNat 52 m))) := by
  have hpacked := exactly_packComponents_zero (BitVec.ofNat 52 m)
  rwa [BitVec.toNat_ofNat, Nat.mod_eq_of_lt short] at hpacked

/-- What is unpacked has a significand of 53 bits, or of fewer at the least exponent. -/
theorem normal_unpack (x : Float.Model) : Normal x.unpack := by
  rw [Float.Model.unpack, unpack]
  have hbias : (Format.binary64.exponentBias : ℤ) + (52 : ℕ) = 1075 := rfl
  have hlong : (@unpackMantissa Format.binary64 x.toBits.toBitVec).toNat < 2 ^ 52 :=
    BitVec.isLt _
  simp only [hbias]
  split
  · split <;> trivial
  · split
    · split
      · trivial
      · next hzero _ =>
        rw [Normal, hzero]
        refine ⟨by omega, by decide, .inr (by decide)⟩
    · next hzero =>
      have hpos : (@unpackExponent Format.binary64 x.toBits.toBitVec).toNat ≠ 0 :=
        fun heq => hzero (BitVec.eq_of_toNat_eq heq)
      rw [Normal, toNat_one_append]
      refine ⟨by omega, by omega, .inl (by omega)⟩

/-- A number that is packed stays the same, unless its exponent is too large. -/
theorem exactly_unpack_pack {q : ℚ} {x : UnpackedFloat} (h : Exactly q x) (normal : Normal x) :
    Exactly q (Float.Model.pack x).unpack ∨
      (Float.Model.pack x).unpack = .infinity .positive ∧ large ≤ q := by
  rcases x with _ | _ | s | ⟨_ | _, m, e, hm⟩
  · cases h
  · cases h
  · left
    cases s <;> exact h
  · cases h
  · obtain ⟨hlt, hlow, hlong⟩ := normal
    have hq : q = m * 2 ^ e := h
    have hpack : (Float.Model.pack (.finite .positive m e hm)).unpack =
        unpack Format.binary64 (pack Format.binary64 (.finite .positive m e hm)) := rfl
    have hbiased : (e + Format.binary64.exponentBias + (52 : ℕ)).toNat = (e + 1075).toNat :=
      congrArg Int.toNat (Int.add_assoc e 1023 52)
    rw [hpack, pack]
    simp only [hbiased]
    split
    · right
      refine ⟨rfl, ?_⟩
      have he : (972 : ℤ) ≤ e := by omega
      have hone : (1 : ℚ) ≤ m := by exact_mod_cast hm
      calc large = 1 * 2 ^ (972 : ℤ) := (one_mul _).symm
        _ ≤ m * 2 ^ e := by gcongr; norm_num
        _ = q := hq.symm
    · left
      have hbits : Format.binary64.mantissaBits = 53 := rfl
      rw [hq]
      split
      · next hlength =>
        have hge : 2 ^ 52 ≤ m := by
          rw [← Nat.le_log2 hm.ne']
          omega
        exact exactly_packComponents_of_long hge hlt hlow (by omega)
      · next hlength =>
        have hshort : m < 2 ^ 52 := by
          rw [← Nat.log2_lt hm.ne']
          have := (Nat.log2_lt hm.ne').mpr hlt
          omega
        obtain rfl : e = -1074 := by omega
        exact exactly_packComponents_of_short hshort

end FeatureTrials.Decimal
