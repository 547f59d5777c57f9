import Mathlib
import FeatureTrials.Decimal.Binary

/-!
# The order of floating-point numbers

The numbers other than NaN are ordered by a rank: the sign, then the exponent, then the significand,
the latter two the other way round below zero. To compare two numbers is to compare their ranks
(`compare_eq_map₂`), so comparisons chain like those of any linear order. Zero and negative zero
have the same rank, and NaN has none and compares with nothing.

* `rank?` — ranks, in lexicographic order.
* `lt_of_lt_of_le`, `le_trans`, `beq_trans` — comparisons chain.
* `lt_or_beq_or_gt`, `le_or_gt` — any two numbers compare.
* `eq_or_zeros_of_beq` — which numbers are equal.
-/

namespace FeatureTrials.Decimal

open Float.Model (UnpackedFloat)

/-! ## Ranks -/

/-- The place of a number among the others: the class of its sign, the exponent and the
significand. -/
def rank? : UnpackedFloat → Option (ℤ ×ₗ ℤ ×ₗ ℤ)
  | .notANumber => none
  | .infinity .negative => some (toLex (-2, toLex (0, 0)))
  | .finite .negative m e _ => some (toLex (-1, toLex (-e, -m)))
  | .zero _ => some (toLex (0, toLex (0, 0)))
  | .finite .positive m e _ => some (toLex (1, toLex (e, m)))
  | .infinity .positive => some (toLex (2, toLex (0, 0)))

theorem compare_neg_neg (i j : ℤ) : compare (-i) (-j) = (compare i j).swap := by
  rw [Int.compare_swap, ← cmp_eq_compare, ← cmp_eq_compare]
  exact StrictAnti.cmp_map_eq (fun _ _ => neg_lt_neg) i j

theorem compare_natCast (m n : ℕ) : compare (m : ℤ) n = compare m n := by
  rw [← cmp_eq_compare, ← cmp_eq_compare]
  exact Nat.strictMono_cast.cmp_map_eq m n

/-- Numbers are compared by their ranks. -/
theorem compare_eq_map₂ (a b : UnpackedFloat) :
    a.compare b = Option.map₂ compare (rank? a) (rank? b) := by
  -- one case for every pair of classes; only two numbers of one sign are compared any further
  rcases a with (_ | _) | _ | (_ | _) | ⟨_ | _, m, e, hm⟩ <;>
  rcases b with (_ | _) | _ | (_ | _) | ⟨_ | _, n, f, hn⟩ <;>
  simp [UnpackedFloat.compare, rank?, Prod.Lex.compare_def, compareLex, compareOn]
  case finite.negative.finite.negative =>
    rw [Ordering.swap_then, compare_neg_neg, compare_neg_neg, compare_natCast]
  case finite.positive.finite.positive => rw [compare_natCast]
  all_goals rfl

/-! ## Comparisons -/

variable {x y z : Float}

theorem lt_iff :
    x < y ↔ ∃ r s, rank? x.toModel.unpack = some r ∧ rank? y.toModel.unpack = some s ∧ r < s := by
  have hlt : x < y ↔ x.toModel.unpack.compare y.toModel.unpack = some .lt :=
    decide_eq_true_iff.trans beq_iff_eq
  simp only [hlt, compare_eq_map₂, Option.map₂_eq_some_iff, Option.mem_def, compare_lt_iff_lt]

theorem le_iff :
    x ≤ y ↔ ∃ r s, rank? x.toModel.unpack = some r ∧ rank? y.toModel.unpack = some s ∧ r ≤ s := by
  have hle : x ≤ y ↔ Option.any (·.isLE) (x.toModel.unpack.compare y.toModel.unpack) = true :=
    decide_eq_true_iff
  simp only [hle, Option.any_eq_true, compare_eq_map₂, Option.map₂_eq_some_iff, Option.mem_def,
    Ordering.isLE_iff_ne_gt]
  constructor
  · rintro ⟨_, ⟨r, s, hx, hy, rfl⟩, h⟩
    exact ⟨r, s, hx, hy, compare_le_iff_le.mp h⟩
  · rintro ⟨r, s, hx, hy, h⟩
    exact ⟨_, ⟨r, s, hx, hy, rfl⟩, compare_le_iff_le.mpr h⟩

theorem beq_iff :
    (x == y) = true ↔ ∃ r, rank? x.toModel.unpack = some r ∧ rank? y.toModel.unpack = some r := by
  have hbeq : (x == y) = (x.toModel.unpack.compare y.toModel.unpack == some .eq) := rfl
  simp only [hbeq, beq_iff_eq, compare_eq_map₂, Option.map₂_eq_some_iff, Option.mem_def,
    compare_eq_iff_eq]
  constructor
  · rintro ⟨r, _, hx, hy, rfl⟩
    exact ⟨r, hx, hy⟩
  · rintro ⟨r, hx, hy⟩
    exact ⟨r, r, hx, hy, rfl⟩

theorem le_trans (hxy : x ≤ y) (hyz : y ≤ z) : x ≤ z := by
  rw [le_iff] at *
  obtain ⟨r, s, hr, hs, hrs⟩ := hxy
  obtain ⟨s', t, hs', ht, hst⟩ := hyz
  rw [hs] at hs'
  cases hs'
  exact ⟨r, t, hr, ht, hrs.trans hst⟩

theorem lt_of_lt_of_le (hxy : x < y) (hyz : y ≤ z) : x < z := by
  rw [lt_iff] at *
  obtain ⟨r, s, hr, hs, hrs⟩ := hxy
  obtain ⟨s', t, hs', ht, hst⟩ := le_iff.mp hyz
  rw [hs] at hs'
  cases hs'
  exact ⟨r, t, hr, ht, hrs.trans_le hst⟩

theorem not_lt_of_le (hxy : x ≤ y) : ¬ y < x := by
  intro hyx
  obtain ⟨r, s, hr, hs, hrs⟩ := lt_iff.mp (lt_of_lt_of_le hyx hxy)
  rw [hr] at hs
  cases hs
  exact lt_irrefl _ hrs

theorem le_of_lt (h : x < y) : x ≤ y := by
  obtain ⟨r, s, hr, hs, hlt⟩ := lt_iff.mp h
  exact le_iff.mpr ⟨r, s, hr, hs, hlt.le⟩

/-- Equal numbers are at most each other. -/
theorem le_of_beq (h : (x == y) = true) : x ≤ y ∧ y ≤ x := by
  obtain ⟨r, hx, hy⟩ := beq_iff.mp h
  exact ⟨le_iff.mpr ⟨r, r, hx, hy, le_refl r⟩, le_iff.mpr ⟨r, r, hy, hx, le_refl r⟩⟩

theorem beq_symm (h : (x == y) = true) : (y == x) = true := by
  obtain ⟨r, hx, hy⟩ := beq_iff.mp h
  exact beq_iff.mpr ⟨r, hy, hx⟩

theorem beq_trans (hxy : (x == y) = true) (hyz : (y == z) = true) : (x == z) = true := by
  obtain ⟨r, hx, hy⟩ := beq_iff.mp hxy
  obtain ⟨s, hy', hz⟩ := beq_iff.mp hyz
  rw [hy] at hy'
  cases hy'
  exact beq_iff.mpr ⟨r, hx, hz⟩

/-- A number is at most another one if it is smaller or equal. -/
theorem le_iff_lt_or_beq : x ≤ y ↔ x < y ∨ (x == y) = true := by
  constructor
  · intro hle
    obtain ⟨r, s, hx, hy, hrs⟩ := le_iff.mp hle
    rcases hrs.lt_or_eq with hlt | rfl
    · exact .inl (lt_iff.mpr ⟨r, s, hx, hy, hlt⟩)
    · exact .inr (beq_iff.mpr ⟨r, hx, hy⟩)
  · rintro (hlt | heq)
    · exact le_of_lt hlt
    · exact (le_of_beq heq).1

/-- A smaller number is neither equal nor larger. -/
theorem not_beq_of_lt (h : x < y) : ¬ (x == y) = true := fun heq =>
  not_lt_of_le (le_of_beq heq).2 h

/-! ## Numbers that are not NaN -/

/-- Every number but NaN has a rank. -/
theorem isSome_rank? (u : UnpackedFloat) : (rank? u).isSome = !u.isNaN := by
  rcases u with (_ | _) | _ | _ | ⟨_ | _, _, _, _⟩ <;> rfl

theorem exists_rank (number : x.isNaN = false) : ∃ r, rank? x.toModel.unpack = some r := by
  have hnan : x.toModel.unpack.isNaN = false := number
  refine Option.isSome_iff_exists.mp ((isSome_rank? _).trans ?_)
  rw [hnan, Bool.not_false]

/-- A number equals itself unless it is NaN. -/
theorem beq_self_eq (x : Float) : (x == x) = !x.isNaN := by
  have hnan : x.isNaN = x.toModel.unpack.isNaN := rfl
  rw [Bool.eq_iff_iff, beq_iff, hnan, ← isSome_rank?, Option.isSome_iff_exists]
  simp only [and_self]

theorem beq_self (number : x.isNaN = false) : (x == x) = true := by
  rw [beq_self_eq, number, Bool.not_false]

/-- Of two numbers, one is the smaller one or they are equal. -/
theorem lt_or_beq_or_gt (hx : x.isNaN = false) (hy : y.isNaN = false) :
    x < y ∨ (x == y) = true ∨ y < x := by
  obtain ⟨r, hr⟩ := exists_rank hx
  obtain ⟨s, hs⟩ := exists_rank hy
  rcases lt_trichotomy r s with hlt | rfl | hgt
  · exact .inl (lt_iff.mpr ⟨r, s, hr, hs, hlt⟩)
  · exact .inr (.inl (beq_iff.mpr ⟨r, hr, hs⟩))
  · exact .inr (.inr (lt_iff.mpr ⟨s, r, hs, hr, hgt⟩))

theorem le_or_gt (hx : x.isNaN = false) (hy : y.isNaN = false) : x ≤ y ∨ y < x := by
  rcases lt_or_beq_or_gt hx hy with hlt | heq | hgt
  · exact .inl (le_of_lt hlt)
  · exact .inl (le_of_beq heq).1
  · exact .inr hgt

/-! ## Numbers that are equal -/

theorem eq_of_bits (h : x.toModel.toBits.toBitVec = y.toModel.toBits.toBitVec) : x = y := by
  obtain ⟨⟨bits, _⟩⟩ := x
  obtain ⟨⟨bits', _⟩⟩ := y
  obtain rfl : bits = bits' := UInt64.toBitVec_inj.mp h
  rfl

/-- Equal numbers are the same one, but for zero, of which there are two. -/
theorem eq_or_zeros_of_beq (h : (x == y) = true) :
    x = y ∨ x = 0.0 ∧ y = -0.0 ∨ x = -0.0 ∧ y = 0.0 := by
  have hbits := (UnpackedFloat.unpack_beq_unpack_iff x.toModel.valid y.toModel.valid).mp h
  obtain ⟨-, -, hsame | ⟨hx, hy⟩ | ⟨hx, hy⟩⟩ := hbits
  · exact .inl (eq_of_bits hsame)
  · exact .inr (.inl ⟨eq_of_bits hx, eq_of_bits hy⟩)
  · exact .inr (.inr ⟨eq_of_bits hx, eq_of_bits hy⟩)

end FeatureTrials.Decimal
