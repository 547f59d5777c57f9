import FeatureTrials.Proofs.Decimal.Rounding

/-!
# Sums, products and quotients of doubles

What an operation on doubles that are not negative gives, and bounds that go through one operation
after another.

* `Near` — a double that is off from a value by no more than an error, or infinite because no
  finite double is as large.
* `near_add`, `near_mul`, `near_div` — the operations.
* `AtLeast`, `AtMost` — bounds of a double, which may be infinite for the former.
-/

namespace FeatureTrials.Decimal

open Float.Model (UnpackedFloat Format totalExponent)
open Float.Model.UnpackedFloat

/-! ## Values -/

instance (q : ℚ) (x : UnpackedFloat) : Decidable (Exactly q x) :=
  match x with
  | .zero _ => inferInstanceAs (Decidable (q = 0))
  | .finite .positive m e _ => inferInstanceAs (Decidable (q = m * 2 ^ e))
  | .finite .negative _ _ _ => isFalse id
  | .infinity _ => isFalse id
  | .notANumber => isFalse id

/-- The value of a double that is finite and not negative. -/
def value (x : Float) : ℚ :=
  match x.toModel.unpack with
  | .finite _ m e _ => m * 2 ^ e
  | _ => 0

theorem value_of_exactly {q : ℚ} {x : Float} (h : Exactly q x.toModel.unpack) : value x = q := by
  rw [value]
  generalize x.toModel.unpack = u at h
  rcases u with _ | _ | _ | ⟨_ | _, m, e, hm⟩
  · cases h
  · cases h
  · exact h.symm
  · cases h
  · exact h.symm

theorem Exactly.isFinite {q : ℚ} {x : UnpackedFloat} (h : Exactly q x) : x.isFinite = true := by
  cases x with
  | infinity _ => cases h
  | notANumber => cases h
  | _ => rfl

theorem eq_zero_of_exactly_zero {x : UnpackedFloat} (h : Exactly 0 x) : ∃ s, x = .zero s := by
  rcases x with _ | _ | s | ⟨_ | _, m, e, hm⟩
  · cases h
  · cases h
  · exact ⟨s, rfl⟩
  · cases h
  · have hpos : (0 : ℚ) < m * 2 ^ e := by
      have : (0 : ℚ) < m := by exact_mod_cast hm
      positivity
    exact absurd h hpos.ne

theorem eq_finite_of_exactly {q : ℚ} {x : UnpackedFloat} (h : Exactly q x) (hq : 0 < q) :
    ∃ m e hm, x = .finite .positive m e hm ∧ q = m * 2 ^ e := by
  rcases x with _ | _ | _ | ⟨_ | _, m, e, hm⟩
  · cases h
  · cases h
  · exact absurd h hq.ne'
  · cases h
  · exact ⟨m, e, hm, rfl, h⟩

/-! ## Order -/

/-- Of two numbers, the one of the smaller value is the smaller one. -/
theorem lt_of_exactly {x y : Float} {a b : ℚ} (hx : Exactly a x.toModel.unpack)
    (hy : Exactly b y.toModel.unpack) (hlt : a < b) : x < y := by
  have normalx := normal_unpack x.toModel
  have normaly := normal_unpack y.toModel
  obtain ⟨n, f, hn, hyeq, hb⟩ := eq_finite_of_exactly hy (hx.nonneg.trans_lt hlt)
  rw [lt_iff, hyeq]
  rw [hyeq] at normaly
  rcases hxeq : x.toModel.unpack with _ | _ | s | ⟨_ | _, m, e, hm⟩ <;> rw [hxeq] at hx normalx
  · cases hx
  · cases hx
  · exact ⟨_, _, rfl, rfl, Prod.Lex.left _ _ (by decide)⟩
  · cases hx
  · refine ⟨_, _, rfl, rfl, Prod.Lex.right _ ?_⟩
    have ha : a = m * 2 ^ e := hx
    rw [ha, hb] at hlt
    obtain ⟨hmlt, helow, hmlong⟩ := normalx
    obtain ⟨hnlt, hflow, hnlong⟩ := normaly
    rcases lt_trichotomy e f with hef | rfl | hfe
    · exact Prod.Lex.left _ _ hef
    · refine Prod.Lex.right _ ?_
      have := lt_of_mul_lt_mul_right hlt (by positivity)
      exact_mod_cast this
    · -- the larger exponent is not the least one, so its significand has all its bits
      exfalso
      have hlong : 2 ^ 52 ≤ m := hmlong.resolve_right (by omega)
      have hm' : (2 ^ 52 : ℚ) ≤ m := by exact_mod_cast hlong
      have hn' : (n : ℚ) ≤ 2 ^ 53 := by exact_mod_cast hnlt.le
      have hstep : (2 : ℚ) * 2 ^ f ≤ 2 ^ e := by
        rw [← zpow_one_add₀ (by norm_num)]
        exact zpow_le_zpow_right₀ (by norm_num) (by omega)
      have hpos : (0 : ℚ) < 2 ^ f := by positivity
      nlinarith

/-! ## Rounded results -/

/-- The number is off from a value by no more than an error, or infinite as no finite number is so
large. -/
def Near (q error : ℚ) (x : UnpackedFloat) : Prop :=
  ∃ v, |v - q| ≤ error ∧ (Exactly v x ∨ x = .infinity .positive ∧ large ≤ v)

theorem near_of_exactly {q error : ℚ} {x : UnpackedFloat} (h : Exactly q x) (herror : 0 ≤ error) :
    Near q error x :=
  ⟨q, by rwa [sub_self, abs_zero], .inl h⟩

theorem near_unpack_pack {q error v : ℚ} {x : UnpackedFloat} (herror : |v - q| ≤ error)
    (h : Exactly v x) (normal : Normal x) : Near q error (Float.Model.pack x).unpack :=
  ⟨v, herror, exactly_unpack_pack h normal⟩

theorem exactly_unpack_pack_zero (s : Sign) : Exactly 0 (Float.Model.pack (.zero s)).unpack := by
  cases s <;> exact rfl

theorem unpack_pack_infinity :
    (Float.Model.pack (.infinity .positive)).unpack = .infinity .positive := rfl

theorem unpack_add (x y : Float) : (x + y).toModel.unpack = (Float.Model.pack
    (UnpackedFloat.add Format.binary64 x.toModel.unpack y.toModel.unpack)).unpack := rfl

theorem unpack_mul (x y : Float) : (x * y).toModel.unpack = (Float.Model.pack
    (UnpackedFloat.mul Format.binary64 x.toModel.unpack y.toModel.unpack)).unpack := rfl

theorem unpack_div (x y : Float) : (x / y).toModel.unpack = (Float.Model.pack
    (UnpackedFloat.div Format.binary64 x.toModel.unpack y.toModel.unpack)).unpack := rfl

/-- Two numbers are added at the smaller one of their exponents. -/
theorem add_finite {m n : ℕ} {e f : ℤ} (hm : 0 < m) (hn : 0 < n) :
    UnpackedFloat.add Format.binary64 (.finite .positive m e hm) (.finite .positive n f hn) =
      UnpackedFloat.round Format.binary64 .positive
        (m * 2 ^ (e - min e f).toNat + n * 2 ^ (f - min e f).toNat) (min e f) := by
  have hpos : 0 < m * 2 ^ (e - min e f).toNat + n * 2 ^ (f - min e f).toNat := by positivity
  have hcompare : compare (((m * 2 ^ (e - min e f).toNat + n * 2 ^ (f - min e f).toNat : ℕ)) : ℤ)
      0 = .gt := by
    rw [compare_gt_iff_gt]
    exact_mod_cast hpos
  have hsum : UnpackedFloat.add Format.binary64 (.finite .positive m e hm)
      (.finite .positive n f hn) = UnpackedFloat.normalize Format.binary64
        (((m <<< (e - min e f).toNat : ℕ) : ℤ) + ((n <<< (f - min e f).toNat : ℕ) : ℤ))
        (min e f) .positive := rfl
  rw [hsum, Nat.shiftLeft_eq, Nat.shiftLeft_eq, ← Nat.cast_add,
    Float.Model.UnpackedFloat.normalize, hcompare]
  dsimp only
  rw [Int.toNat_natCast]

theorem two_zpow_toNat_mul {e f : ℤ} (h : f ≤ e) : (2 : ℚ) ^ (e - f).toNat * 2 ^ f = 2 ^ e := by
  have hexponent : ((e - f).toNat : ℤ) + f = e := by omega
  rw [← zpow_natCast, ← zpow_add₀ (by norm_num), hexponent]

variable {x y : Float} {a b : ℚ}

/-- A sum has a relative error only. -/
theorem near_add (hx : Exactly a x.toModel.unpack) (hy : Exactly b y.toModel.unpack) :
    Near (a + b) (unit * (a + b)) (x + y).toModel.unpack := by
  have herror : 0 ≤ unit * (a + b) := mul_nonneg unit_pos.le (add_nonneg hx.nonneg hy.nonneg)
  have normalx := normal_unpack x.toModel
  have normaly := normal_unpack y.toModel
  rw [unpack_add]
  generalize x.toModel.unpack = u at hx normalx
  generalize y.toModel.unpack = w at hy normaly
  rcases hx.nonneg.eq_or_lt with rfl | ha
  · obtain ⟨s, rfl⟩ := eq_zero_of_exactly_zero hx
    rw [zero_add] at herror ⊢
    rcases hy.nonneg.eq_or_lt with rfl | hb
    · obtain ⟨s', rfl⟩ := eq_zero_of_exactly_zero hy
      cases s <;> cases s' <;> exact near_of_exactly (exactly_unpack_pack_zero _) herror
    · obtain ⟨n, f, hn, rfl, -⟩ := eq_finite_of_exactly hy hb
      exact near_unpack_pack (by rwa [sub_self, abs_zero]) hy normaly
  · obtain ⟨m, e, hm, rfl, hae⟩ := eq_finite_of_exactly hx ha
    rcases hy.nonneg.eq_or_lt with rfl | hb
    · obtain ⟨s', rfl⟩ := eq_zero_of_exactly_zero hy
      rw [add_zero] at herror ⊢
      exact near_unpack_pack (by rwa [sub_self, abs_zero]) hx normalx
    · obtain ⟨n, f, hn, rfl, hbf⟩ := eq_finite_of_exactly hy hb
      obtain ⟨-, helow, -⟩ := normalx
      obtain ⟨-, hflow, -⟩ := normaly
      have hvalue : ((m * 2 ^ (e - min e f).toNat + n * 2 ^ (f - min e f).toNat : ℕ) : ℚ) *
          2 ^ min e f = a + b := by
        push_cast
        rw [add_mul, mul_assoc, mul_assoc, two_zpow_toNat_mul (min_le_left e f),
          two_zpow_toNat_mul (min_le_right e f), ← hae, ← hbf]
      obtain ⟨v, hv, hexactly, normal⟩ := exists_near_round
        (m := m * 2 ^ (e - min e f).toNat + n * 2 ^ (f - min e f).toNat) (e := min e f)
        (by positivity) (le_min helow hflow)
      rw [hvalue] at hv
      rw [add_finite]
      exact near_unpack_pack hv hexactly normal

theorem long_mul {m n : ℕ} {e f : ℤ} (hm : 0 < m) (hn : 0 < n)
    (normal : 2 ^ 52 ≤ m ∨ e = -1074) (normal' : 2 ^ 52 ≤ n ∨ f = -1074) :
    Long (m * n) (e + f) := by
  rcases normal with hlong | rfl
  · exact .inl (hlong.trans (Nat.le_mul_of_pos_right m hn))
  · rcases normal' with hlong | rfl
    · exact .inl (hlong.trans (Nat.le_mul_of_pos_left n hm))
    · exact .inr (by decide)

theorem near_mul (hx : Exactly a x.toModel.unpack) (hy : Exactly b y.toModel.unpack) :
    Near (a * b) (unit * (a * b) + least) (x * y).toModel.unpack := by
  have herror : 0 ≤ unit * (a * b) + least :=
    add_nonneg (mul_nonneg unit_pos.le (mul_nonneg hx.nonneg hy.nonneg)) least_pos.le
  have normalx := normal_unpack x.toModel
  have normaly := normal_unpack y.toModel
  rw [unpack_mul]
  generalize x.toModel.unpack = u at hx normalx
  generalize y.toModel.unpack = w at hy normaly
  rcases hx.nonneg.eq_or_lt with rfl | ha
  · obtain ⟨s, rfl⟩ := eq_zero_of_exactly_zero hx
    rw [zero_mul] at herror ⊢
    rcases hy.nonneg.eq_or_lt with rfl | hb
    · obtain ⟨s', rfl⟩ := eq_zero_of_exactly_zero hy
      exact near_of_exactly (exactly_unpack_pack_zero _) herror
    · obtain ⟨n, f, hn, rfl, -⟩ := eq_finite_of_exactly hy hb
      exact near_of_exactly (exactly_unpack_pack_zero _) herror
  · obtain ⟨m, e, hm, rfl, hae⟩ := eq_finite_of_exactly hx ha
    rcases hy.nonneg.eq_or_lt with rfl | hb
    · obtain ⟨s', rfl⟩ := eq_zero_of_exactly_zero hy
      rw [mul_zero] at herror ⊢
      exact near_of_exactly (exactly_unpack_pack_zero _) herror
    · obtain ⟨n, f, hn, rfl, hbf⟩ := eq_finite_of_exactly hy hb
      have hvalue : ((m * n : ℕ) : ℚ) * 2 ^ (e + f) = a * b := by
        rw [hae, hbf, zpow_add₀ (by norm_num)]
        push_cast
        ring
      have hpos : (0 : ℚ) < 2 ^ (e + f) := by positivity
      obtain ⟨v, hv, hexactly, normal⟩ := exists_near
        (long_mul hm hn normalx.2.2 normaly.2.2) .exact hvalue.le (by
          rw [← hvalue, add_mul, one_mul]
          exact lt_add_of_pos_right _ hpos)
      exact near_unpack_pack hv hexactly normal

/-- The exponent at which a quotient is computed. -/
def quotientExponent (m : ℕ) (e : ℤ) (n : ℕ) (f : ℤ) : ℤ :=
  min (e - f) (max (m.log2 + 1 + e - (n.log2 + 1 + f) - 53) (-1074))

/-- A dividend that is long enough for its quotient to be so. -/
def dividend (m : ℕ) (e : ℤ) (n : ℕ) (f : ℤ) : ℕ :=
  m * 2 ^ (e - f - quotientExponent m e n f).toNat

section Quotient

variable {m n : ℕ} {e f : ℤ}

theorem div_finite (hm : 0 < m) (hn : 0 < n) :
    UnpackedFloat.div Format.binary64 (.finite .positive m e hm) (.finite .positive n f hn) =
      roundWithAccuracy Format.binary64 .positive (dividend m e n f / n) (quotientExponent m e n f)
        (accuracyOfFraction (dividend m e n f % n) n) := by
  rw [dividend, ← Nat.shiftLeft_eq]
  rfl

theorem long_div (hm : 0 < m) (hn : 0 < n) :
    Long (dividend m e n f / n) (quotientExponent m e n f) := by
  rw [dividend, quotientExponent]
  generalize ht : max ((m.log2 : ℤ) + 1 + e - (n.log2 + 1 + f) - 53) (-1074) = t
  by_cases hleast : t = -1074
  · right
    omega
  · left
    have hlog : 52 + (n.log2 + 1) ≤ m.log2 + (e - f - min (e - f) t).toNat := by omega
    rw [Nat.le_div_iff_mul_le hn]
    calc 2 ^ 52 * n ≤ 2 ^ 52 * 2 ^ (n.log2 + 1) :=
          Nat.mul_le_mul_left _ Nat.lt_log2_self.le
      _ = 2 ^ (52 + (n.log2 + 1)) := (Nat.pow_add ..).symm
      _ ≤ 2 ^ (m.log2 + (e - f - min (e - f) t).toNat) := Nat.pow_le_pow_right (by decide) hlog
      _ = 2 ^ m.log2 * 2 ^ (e - f - min (e - f) t).toNat := Nat.pow_add ..
      _ ≤ m * 2 ^ (e - f - min (e - f) t).toNat :=
          Nat.mul_le_mul_right _ (Nat.log2_self_le hm.ne')

theorem dividend_value :
    (dividend m e n f : ℚ) / n * 2 ^ quotientExponent m e n f = m * 2 ^ e / (n * 2 ^ f) := by
  have hle : quotientExponent m e n f ≤ e - f := min_le_left _ _
  rw [dividend, div_mul_eq_mul_div, Nat.cast_mul, Nat.cast_pow, Nat.cast_ofNat, mul_assoc,
    two_zpow_toNat_mul hle, zpow_sub₀ (by norm_num)]
  field_simp

end Quotient

theorem near_div (hx : Exactly a x.toModel.unpack) (hy : Exactly b y.toModel.unpack)
    (hb : 0 < b) : Near (a / b) (unit * (a / b) + least) (x / y).toModel.unpack := by
  have herror : 0 ≤ unit * (a / b) + least :=
    add_nonneg (mul_nonneg unit_pos.le (div_nonneg hx.nonneg hy.nonneg)) least_pos.le
  rw [unpack_div]
  generalize x.toModel.unpack = u at hx
  generalize y.toModel.unpack = w at hy
  obtain ⟨n, f, hn, rfl, hbf⟩ := eq_finite_of_exactly hy hb
  rcases hx.nonneg.eq_or_lt with rfl | ha
  · obtain ⟨s, rfl⟩ := eq_zero_of_exactly_zero hx
    rw [zero_div] at herror ⊢
    exact near_of_exactly (exactly_unpack_pack_zero _) herror
  · obtain ⟨m, e, hm, rfl, hae⟩ := eq_finite_of_exactly hx ha
    have hpos : (0 : ℚ) < 2 ^ quotientExponent m e n f := by positivity
    have hn' : (0 : ℚ) < n := by exact_mod_cast hn
    have hlow : ((dividend m e n f / n : ℕ) : ℚ) * 2 ^ quotientExponent m e n f ≤ a / b := by
      rw [hae, hbf, ← dividend_value]
      exact mul_le_mul_of_nonneg_right Nat.cast_div_le hpos.le
    have hhigh : a / b < ((dividend m e n f / n : ℕ) + 1) * 2 ^ quotientExponent m e n f := by
      have hnext : dividend m e n f < (dividend m e n f / n + 1) * n := by
        rw [Nat.add_one_mul]
        exact Nat.lt_div_mul_add hn
      rw [hae, hbf, ← dividend_value]
      refine mul_lt_mul_of_pos_right ?_ hpos
      rw [div_lt_iff₀ hn']
      exact_mod_cast hnext
    obtain ⟨v, hv, hexactly, normal⟩ := exists_near (long_div hm hn) _ hlow hhigh
    rw [div_finite]
    exact near_unpack_pack hv hexactly normal

/-! ## Bounds -/

/-- The double is no smaller than a value, nor negative; it may be infinite. -/
def AtLeast (q : ℚ) (x : Float) : Prop :=
  x.toModel.unpack = .infinity .positive ∨ ∃ v, Exactly v x.toModel.unpack ∧ q ≤ v

/-- The double is finite, no larger than a value, and not negative. -/
def AtMost (q : ℚ) (x : Float) : Prop := ∃ v, Exactly v x.toModel.unpack ∧ v ≤ q

variable {q r error : ℚ}

theorem Exactly.atLeast (h : Exactly a x.toModel.unpack) : AtLeast a x := .inr ⟨a, h, le_rfl⟩

theorem Exactly.atMost (h : Exactly a x.toModel.unpack) : AtMost a x := ⟨a, h, le_rfl⟩

theorem AtLeast.mono (h : AtLeast q x) (le : r ≤ q) : AtLeast r x :=
  h.imp_right fun ⟨v, hv, hq⟩ => ⟨v, hv, le.trans hq⟩

theorem AtMost.mono (h : AtMost q x) (le : q ≤ r) : AtMost r x :=
  let ⟨v, hv, hq⟩ := h
  ⟨v, hv, hq.trans le⟩

theorem Near.atLeast (h : Near q error x.toModel.unpack) : AtLeast (q - error) x := by
  obtain ⟨v, herror, hexactly | ⟨hinfinite, -⟩⟩ := h
  · exact .inr ⟨v, hexactly, by linarith [(abs_le.mp herror).1]⟩
  · exact .inl hinfinite

theorem Near.atMost (h : Near q error x.toModel.unpack) (small : q + error < large) :
    AtMost (q + error) x := by
  obtain ⟨v, herror, hexactly | ⟨-, hlarge⟩⟩ := h
  · exact ⟨v, hexactly, by linarith [(abs_le.mp herror).2]⟩
  · linarith [(abs_le.mp herror).2]

theorem Exactly.number (h : Exactly q x.toModel.unpack) : x.isNaN = false := by
  have hnan : x.isNaN = x.toModel.unpack.isNaN := rfl
  rw [hnan]
  generalize x.toModel.unpack = u at h
  cases u with
  | notANumber => cases h
  | _ => rfl

theorem AtLeast.number (h : AtLeast q x) : x.isNaN = false := by
  rcases h with hinfinite | ⟨v, hexactly, -⟩
  · have hnan : x.isNaN = x.toModel.unpack.isNaN := rfl
    rw [hnan, hinfinite]
    rfl
  · exact hexactly.number

theorem Near.number (h : Near q error x.toModel.unpack) : x.isNaN = false := by
  obtain ⟨v, -, hexactly | ⟨hinfinite, -⟩⟩ := h
  · exact hexactly.number
  · exact AtLeast.number (q := q) (.inl hinfinite)

theorem AtLeast.exactly_value (h : AtLeast q x) (finite : x.isFinite = true) :
    Exactly (value x) x.toModel.unpack ∧ q ≤ value x := by
  rcases h with hinfinite | ⟨v, hv, hq⟩
  · have : x.toModel.unpack.isFinite = true := finite
    rw [hinfinite] at this
    cases this
  · rw [value_of_exactly hv]
    exact ⟨hv, hq⟩

/-- The values of the constants, with and without a point. -/
theorem constants_exactly :
    (Exactly 0 (0.0 : Float).toModel.unpack ∧ Exactly 100 (100.0 : Float).toModel.unpack) ∧
      Exactly 0 (0 : Float).toModel.unpack ∧ Exactly 100 (100 : Float).toModel.unpack := by
  decide +kernel

theorem zero_exactly : Exactly 0 (0.0 : Float).toModel.unpack := constants_exactly.1.1

theorem hundred_exactly : Exactly 100 (100.0 : Float).toModel.unpack := constants_exactly.1.2

/-- A double that is neither negative nor NaN. -/
theorem atLeast_zero (negative : ¬ x < 0.0) (nan : x.isNaN = false) : AtLeast 0 x := by
  have hnan : x.toModel.unpack.isNaN = false := nan
  obtain ⟨s, hs⟩ := eq_zero_of_exactly_zero zero_exactly
  rw [lt_iff, hs] at negative
  rw [AtLeast]
  generalize x.toModel.unpack = u at negative hnan
  have hsign : ∀ i, i < 0 → ∀ j, rank? u ≠ some (toLex (i, j)) := fun i hi j hrank =>
    negative ⟨_, _, hrank, rfl, Prod.Lex.left _ _ hi⟩
  rcases u with (_ | _) | _ | s' | ⟨_ | _, m, e, hm⟩
  · exact absurd rfl (hsign (-2) (by decide) _)
  · exact .inl rfl
  · cases hnan
  · exact .inr ⟨0, rfl, le_rfl⟩
  · exact absurd rfl (hsign (-1) (by decide) _)
  · exact .inr ⟨_, rfl, by positivity⟩

theorem le_of_exactly_zero (hx : Exactly 0 x.toModel.unpack) (hy : Exactly 0 y.toModel.unpack) :
    x ≤ y := by
  obtain ⟨s, hs⟩ := eq_zero_of_exactly_zero hx
  obtain ⟨s', hs'⟩ := eq_zero_of_exactly_zero hy
  rw [le_iff, hs, hs']
  exact ⟨_, _, rfl, rfl, le_rfl⟩

theorem zero_le_of_exactly (h : Exactly a x.toModel.unpack) : 0.0 ≤ x := by
  rcases h.nonneg.eq_or_lt with rfl | hpos
  · exact le_of_exactly_zero zero_exactly h
  · exact le_of_lt (lt_of_exactly zero_exactly h hpos)

theorem pos_of_lt (hx : Exactly 0 x.toModel.unpack) (hy : Exactly b y.toModel.unpack) (lt : x < y) :
    0 < b := by
  refine hy.nonneg.lt_of_ne ?_
  rintro rfl
  obtain ⟨s, hs⟩ := eq_zero_of_exactly_zero hx
  obtain ⟨s', hs'⟩ := eq_zero_of_exactly_zero hy
  rw [lt_iff, hs, hs'] at lt
  obtain ⟨_, _, ⟨⟩, ⟨⟩, hlt⟩ := lt
  exact lt_irrefl _ hlt

theorem AtLeast.le (h : AtLeast q y) (hx : Exactly a x.toModel.unpack) (lt : a < q) : x ≤ y := by
  rcases h with hinfinite | ⟨v, hv, hq⟩
  · rw [le_iff, hinfinite]
    generalize x.toModel.unpack = u at hx
    rcases u with _ | _ | _ | ⟨_ | _, m, e, hm⟩
    · cases hx
    · cases hx
    · exact ⟨_, _, rfl, rfl, Prod.Lex.toLex_mono (by decide)⟩
    · cases hx
    · exact ⟨_, _, rfl, rfl, Prod.Lex.left _ _ (by decide)⟩
  · exact le_of_lt (lt_of_exactly hx hv (lt.trans_le hq))

/-! ### Sums -/

theorem infinite_add (hx : x.toModel.unpack = .infinity .positive) (hy : AtLeast r y) :
    (x + y).toModel.unpack = .infinity .positive := by
  rw [unpack_add, hx]
  rcases hy with hinfinite | ⟨v, hv, -⟩
  · rw [hinfinite]
    exact unpack_pack_infinity
  · generalize y.toModel.unpack = w at hv
    cases w with
    | infinity _ => cases hv
    | notANumber => cases hv
    | _ => exact unpack_pack_infinity

theorem add_infinite (hx : AtLeast q x) (hy : y.toModel.unpack = .infinity .positive) :
    (x + y).toModel.unpack = .infinity .positive := by
  rw [unpack_add, hy]
  rcases hx with hinfinite | ⟨v, hv, -⟩
  · rw [hinfinite]
    exact unpack_pack_infinity
  · generalize x.toModel.unpack = w at hv
    cases w with
    | infinity _ => cases hv
    | notANumber => cases hv
    | _ => exact unpack_pack_infinity

/-- Zeros add up to zero. -/
theorem exactly_zero_add (hx : Exactly 0 x.toModel.unpack) (hy : Exactly 0 y.toModel.unpack) :
    Exactly 0 (x + y).toModel.unpack := by
  have hnear := near_add hx hy
  rw [add_zero, mul_zero] at hnear
  have hlarge : 0 + 0 < large := by
    rw [add_zero, large]
    positivity
  obtain ⟨v, hv, hle⟩ := hnear.atMost hlarge
  rw [add_zero] at hle
  rwa [hle.antisymm hv.nonneg] at hv

theorem unit_lt_one : unit < 1 := by
  rw [unit]
  norm_num

theorem unit_le_one : unit ≤ 1 := unit_lt_one.le

theorem AtLeast.add (hx : AtLeast q x) (hy : AtLeast r y) :
    AtLeast ((1 - unit) * (q + r)) (x + y) := by
  rcases hx with hinfinite | ⟨v, hv, hq⟩
  · exact .inl (infinite_add hinfinite hy)
  · rcases hy with hinfinite | ⟨w, hw, hr⟩
    · exact .inl (add_infinite hv.atLeast hinfinite)
    · refine (near_add hv hw).atLeast.mono ?_
      have hle : (1 - unit) * (q + r) ≤ (1 - unit) * (v + w) :=
        mul_le_mul_of_nonneg_left (add_le_add hq hr) (sub_nonneg.mpr unit_le_one)
      linarith

/-- The parts of a finite sum are finite. -/
theorem isFinite_of_isFinite_add (hx : AtLeast q x) (hy : AtLeast r y)
    (finite : (x + y).isFinite = true) : x.isFinite = true ∧ y.isFinite = true := by
  have hfinite : (x + y).toModel.unpack.isFinite = true := finite
  constructor
  · rcases hx with hinfinite | ⟨v, hv, -⟩
    · rw [infinite_add hinfinite hy] at hfinite
      cases hfinite
    · exact hv.isFinite
  · rcases hy with hinfinite | ⟨v, hv, -⟩
    · rw [add_infinite hx hinfinite] at hfinite
      cases hfinite
    · exact hv.isFinite

/-- A finite sum does not exceed that of the values by much. -/
theorem value_add_le (hx : Exactly a x.toModel.unpack) (hy : Exactly b y.toModel.unpack)
    (finite : (x + y).isFinite = true) :
    (1 - unit) * value (x + y) ≤ a + b := by
  have hfinite : (x + y).toModel.unpack.isFinite = true := finite
  obtain ⟨v, herror, hexactly | ⟨hinfinite, -⟩⟩ := near_add hx hy
  · have hsum : 0 ≤ a + b := add_nonneg hx.nonneg hy.nonneg
    have hle : v ≤ (1 + unit) * (a + b) := by linarith [(abs_le.mp herror).2]
    rw [value_of_exactly hexactly]
    calc (1 - unit) * v ≤ (1 - unit) * ((1 + unit) * (a + b)) :=
          mul_le_mul_of_nonneg_left hle (sub_nonneg.mpr unit_le_one)
      _ = (a + b) - unit ^ 2 * (a + b) := by ring
      _ ≤ a + b := sub_le_self _ (mul_nonneg (sq_nonneg _) hsum)
  · rw [hinfinite] at hfinite
    cases hfinite

/-! ### Products and quotients -/

theorem AtLeast.mul (hx : AtLeast q x) (hy : Exactly b y.toModel.unpack) (hb : 0 < b) :
    AtLeast ((1 - unit) * (q * b) - least) (x * y) := by
  rcases hx with hinfinite | ⟨v, hv, hq⟩
  · left
    obtain ⟨n, f, hn, hyeq, -⟩ := eq_finite_of_exactly hy hb
    rw [unpack_mul, hinfinite, hyeq]
    exact unpack_pack_infinity
  · refine (near_mul hv hy).atLeast.mono ?_
    have hle : (1 - unit) * (q * b) ≤ (1 - unit) * (v * b) :=
      mul_le_mul_of_nonneg_left (mul_le_mul_of_nonneg_right hq hb.le)
        (sub_nonneg.mpr unit_le_one)
    linarith

theorem AtMost.mul (hx : AtMost q x) (hy : AtMost r y)
    (small : (1 + unit) * (q * r) + least < large) :
    AtMost ((1 + unit) * (q * r) + least) (x * y) := by
  obtain ⟨v, hv, hq⟩ := hx
  obtain ⟨w, hw, hr⟩ := hy
  have hle : (1 + unit) * (v * w) ≤ (1 + unit) * (q * r) :=
    mul_le_mul_of_nonneg_left (mul_le_mul hq hr hw.nonneg (hv.nonneg.trans hq))
      (by linarith [unit_pos])
  exact ((near_mul hv hw).atMost (by linarith)).mono (by linarith)

theorem AtMost.div (hx : AtMost q x) (hy : Exactly b y.toModel.unpack) (hb : 0 < b)
    (small : (1 + unit) * (q / b) + least < large) :
    AtMost ((1 + unit) * (q / b) + least) (x / y) := by
  obtain ⟨v, hv, hq⟩ := hx
  have hle : (1 + unit) * (v / b) ≤ (1 + unit) * (q / b) :=
    mul_le_mul_of_nonneg_left (div_le_div_of_nonneg_right hq hb.le) (by linarith [unit_pos])
  exact ((near_div hv hy hb).atMost (by linarith)).mono (by linarith)

/-! ### Whole numbers -/

theorem near_ofUInt64 (n : UInt64) :
    Near n.toNat (unit * n.toNat) (Float.Model.ofUInt64 n).unpack := by
  rw [Float.Model.ofUInt64, Float.Model.UnpackedFloat.ofUInt64, Float.Model.UnpackedFloat.ofNat,
    Float.Model.UnpackedFloat.ofInt, Float.Model.UnpackedFloat.normalize]
  rcases Nat.eq_zero_or_pos n.toNat with hzero | hpos
  · rw [hzero]
    exact near_of_exactly (exactly_unpack_pack_zero .positive) (by simp)
  · have hcompare : compare (n.toNat : ℤ) 0 = .gt := by
      rw [compare_gt_iff_gt]
      omega
    rw [hcompare]
    dsimp only
    rw [Int.toNat_natCast]
    obtain ⟨v, hv, hexactly, normal⟩ :=
      exists_near_round (m := n.toNat) (e := 0) hpos.ne' (by decide)
    rw [zpow_zero, mul_one] at hv
    exact near_unpack_pack hv hexactly normal

theorem two_pow_lt_large : (2 : ℚ) ^ 64 < large := by
  rw [large, ← zpow_natCast]
  exact zpow_lt_zpow_right₀ (by norm_num) (by norm_num)

theorem least_le_unit : least ≤ unit :=
  zpow_le_zpow_right₀ (by norm_num) (by norm_num)

theorem one_exactly : Exactly 1 (Float.ofBits 0x3FF0000000000000).toModel.unpack := by
  decide +kernel

/-- A short whole number is converted and then scaled by one. -/
theorem ofNat_eq_mul {n : ℕ} (h : n < 2 ^ 53) :
    Float.ofNat n = n.toUInt64.toFloat * Float.ofBits 0x3FF0000000000000 := by
  have hscientific : Float.ofNat n = Float.ofScientific n false 0 := rfl
  rw [hscientific, Float.ofScientific, dif_pos ⟨h, by decide⟩]
  rfl

/-- A short whole number fits the word it is converted from. -/
theorem near_toFloat {n : ℕ} (h : n < 2 ^ 53) :
    Near n (unit * n) n.toUInt64.toFloat.toModel.unpack := by
  have hn : n.toUInt64.toNat = n := Nat.mod_eq_of_lt (h.trans (by decide))
  have hnear := near_ofUInt64 n.toUInt64
  rwa [hn] at hnear

/-- A whole number is not exceeded by much. -/
theorem atMost_ofNat {n : ℕ} (h : n < 2 ^ 53) :
    AtMost ((1 + unit) * ((1 + unit) * n) + least) (Float.ofNat n) := by
  have hle : (n : ℚ) ≤ 2 ^ 53 := by exact_mod_cast h.le
  have hunit : unit * n ≤ n := mul_le_of_le_one_left n.cast_nonneg unit_le_one
  have hunit' : unit * ((1 + unit) * n) ≤ (1 + unit) * n :=
    mul_le_of_le_one_left (mul_nonneg (by linarith [unit_pos]) n.cast_nonneg) unit_le_one
  have hleast : least ≤ 1 := least_le_unit.trans unit_le_one
  have hlarge := two_pow_lt_large
  have hinteger : AtMost ((1 + unit) * n) n.toUInt64.toFloat :=
    ((near_toFloat h).atMost (by linarith)).mono (by linarith)
  have := hinteger.mul one_exactly.atMost (by linarith)
  rwa [mul_one, ← ofNat_eq_mul h] at this

/-- A long whole number is rounded once. -/
theorem near_ofNat_of_long {n : ℕ} (h : 2 ^ 53 ≤ n) :
    Near n (unit * n) (Float.ofNat n).toModel.unpack := by
  have hn : n ≠ 0 := by omega
  have hround : (Float.ofNat n).toModel = Float.Model.pack
      (roundWithAccuracy Format.binary64 .positive (n * 2 ^ 53) (-53) .exact) := by
    have hscientific : Float.ofNat n = Float.ofScientific n false 0 := rfl
    rw [hscientific, Float.ofScientific, dif_neg (by omega), ← ofScientific_eq_round hn]
    rfl
  have hvalue : ((n * 2 ^ 53 : ℕ) : ℚ) * 2 ^ (-53 : ℤ) = n := by
    push_cast
    rw [mul_assoc]
    norm_num
  obtain ⟨v, hv, hexactly, normal⟩ :=
    exists_near_exact (m := n * 2 ^ 53) (e := -53) (.inl (by omega)) (by decide)
  rw [hvalue] at hv
  rw [hround]
  exact near_unpack_pack hv hexactly normal

/-- A whole number is not undercut by much. -/
theorem atLeast_ofNat (n : ℕ) :
    AtLeast ((1 - unit) * ((1 - unit) * n) - least) (Float.ofNat n) := by
  have hn : (0 : ℚ) ≤ n := n.cast_nonneg
  rcases Nat.lt_or_ge n (2 ^ 53) with hshort | hlong
  · have hinteger : AtLeast ((1 - unit) * n) n.toUInt64.toFloat :=
      (near_toFloat hshort).atLeast.mono (by linarith)
    have := hinteger.mul one_exactly (by norm_num)
    rwa [mul_one, ← ofNat_eq_mul hshort] at this
  · refine (near_ofNat_of_long hlong).atLeast.mono ?_
    have hle : (1 - unit) * ((1 - unit) * n) ≤ (1 - unit) * n :=
      mul_le_of_le_one_left (mul_nonneg (sub_nonneg.mpr unit_le_one) hn) (by linarith [unit_pos])
    linarith [least_pos]

/-- A whole number of 64 bits has a value, which is positive if the number is. -/
theorem exists_exactly_ofNat {n : ℕ} (h : n < 2 ^ 64) :
    ∃ v, Exactly v (Float.ofNat n).toModel.unpack ∧ (0 < n → 0 < v) := by
  obtain ⟨hexactly, hle⟩ := (atLeast_ofNat n).exactly_value (isFinite_ofNat h)
  refine ⟨_, hexactly, fun hpos => LT.lt.trans_le ?_ hle⟩
  have hone : (1 : ℚ) ≤ n := by exact_mod_cast hpos
  have hshare : 0 ≤ 1 - unit := sub_nonneg.mpr unit_le_one
  have hscaled : (1 - unit) * ((1 - unit) * 1) ≤ (1 - unit) * ((1 - unit) * n) :=
    mul_le_mul_of_nonneg_left (mul_le_mul_of_nonneg_left hone hshare) hshare
  have hpositive : unit < (1 - unit) * ((1 - unit) * 1) := by
    rw [unit_eq]
    norm_num
  linarith [least_le_unit]

end FeatureTrials.Decimal
