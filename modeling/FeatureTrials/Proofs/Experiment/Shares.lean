import FeatureTrials.Proofs.Experiment.Assignment
import FeatureTrials.Proofs.Experiment.Validity

/-!
# Who is served a variant without weight

The walk along the shares passes over the variants without weight, but a bucket it does not reach is
left to the control, whatever that one weighs. Rounding alone never lets the walk end below the last
bucket, which is 99.99: each step is off by a few parts in `2 ^ 52`. A sum of weights that is not
finite does, since each share of it is zero.

* `Share.le_of_walk_eq_none` — how far a walk gets that does not stop.
* `Share.walk_eq_none_of_infinite` — a walk along the shares of an infinite sum.
* `Experiment.zero_weights` — both cases, for valid experiments.
-/

namespace FeatureTrials

open Decimal
open Float.Model (UnpackedFloat)

namespace Share

variable {β : Type} {arms : List (β × Float)} {sum total bucket reached weight : Float}
  {t b q w : ℚ}

/-! ## The sum of the weights -/

/-- A finite sum is one of finite weights, and does not exceed that of their values by much. -/
theorem value_foldl_le {weights : List Float} (hsum : AtLeast 0 sum)
    (hweights : ∀ weight ∈ weights, AtLeast 0 weight)
    (finite : (weights.foldl (· + ·) sum).isFinite = true) :
    sum.isFinite = true ∧ (∀ weight ∈ weights, weight.isFinite = true) ∧
      (1 - unit) ^ weights.length * value (weights.foldl (· + ·) sum) ≤
        value sum + (weights.map value).sum := by
  induction weights generalizing sum with
  | nil => exact ⟨finite, nofun, by simp⟩
  | cons weight weights ih =>
    obtain ⟨hweight, hothers⟩ := List.forall_mem_cons.mp hweights
    have hnext : AtLeast 0 (sum + weight) := (hsum.add hweight).mono (by simp)
    obtain ⟨hfinite, hrest, hle⟩ := ih hnext hothers finite
    obtain ⟨hsumfinite, hweightfinite⟩ := isFinite_of_isFinite_add hsum hweight hfinite
    have hstep := value_add_le (hsum.exactly_value hsumfinite).1
      (hweight.exactly_value hweightfinite).1 hfinite
    have hnonneg : 0 ≤ (weights.map value).sum :=
      List.sum_nonneg (List.forall_mem_map.mpr fun other hmem =>
        ((hothers other hmem).exactly_value (hrest other hmem)).2)
    refine ⟨hsumfinite, List.forall_mem_cons.mpr ⟨hweightfinite, hrest⟩, ?_⟩
    have hunit : 0 ≤ 1 - unit := sub_nonneg.mpr unit_le_one
    rw [List.foldl_cons, List.length_cons, List.map_cons, List.sum_cons, pow_succ']
    calc (1 - unit) * (1 - unit) ^ weights.length * value (weights.foldl (· + ·) (sum + weight))
        = (1 - unit) * ((1 - unit) ^ weights.length *
            value (weights.foldl (· + ·) (sum + weight))) := by ring
      _ ≤ (1 - unit) * (value (sum + weight) + (weights.map value).sum) :=
          mul_le_mul_of_nonneg_left hle hunit
      _ = (1 - unit) * value (sum + weight) + (1 - unit) * (weights.map value).sum := by ring
      _ ≤ value sum + value weight + (weights.map value).sum := by
          refine add_le_add hstep (mul_le_of_le_one_left hnonneg ?_)
          linarith [unit_pos]
      _ = value sum + (value weight + (weights.map value).sum) := by ring

theorem exactly_hundred : Exactly 100 (100 : Float).toModel.unpack := constants_exactly.2.2

theorem exactly_zero_foldl {weights : List Float} (hsum : Exactly 0 sum.toModel.unpack)
    (hweights : ∀ weight ∈ weights, Exactly 0 weight.toModel.unpack) :
    Exactly 0 (weights.foldl (· + ·) sum).toModel.unpack := by
  induction weights generalizing sum with
  | nil => exact hsum
  | cons weight weights ih =>
    obtain ⟨hweight, hrest⟩ := List.forall_mem_cons.mp hweights
    exact ih (exactly_zero_add hsum hweight) hrest

theorem exactly_zero_total {weights : List Float}
    (hweights : ∀ weight ∈ weights, Exactly 0 weight.toModel.unpack) :
    Exactly 0 (Share.total weights).toModel.unpack := by
  cases weights with
  | nil => exact exactly_zero
  | cons weight weights =>
    obtain ⟨hweight, hrest⟩ := List.forall_mem_cons.mp hweights
    exact exactly_zero_foldl hweight hrest

/-- A total that is not zero is one of values with a positive sum. -/
theorem sum_value_pos {weights : List Float}
    (hweights : ∀ weight ∈ weights, Exactly (value weight) weight.toModel.unpack)
    (positive : ¬ Share.total weights ≤ 0.0) : 0 < (weights.map value).sum := by
  have hnonneg : ∀ q ∈ weights.map value, 0 ≤ q :=
    List.forall_mem_map.mpr fun weight hmem => (hweights weight hmem).nonneg
  refine (List.sum_nonneg hnonneg).lt_of_ne fun hzero => positive ?_
  refine le_of_exactly_zero (exactly_zero_total fun weight hmem => ?_) zero_exactly
  have hvalue : value weight = 0 :=
    List.all_zero_of_le_zero_le_of_sum_eq_zero hnonneg hzero.symm (List.mem_map_of_mem hmem)
  exact hvalue ▸ hweights weight hmem

/-- A finite total is one of finite weights, and does not exceed that of their values by much. -/
theorem value_total_le {weights : List Float} (hweights : ∀ weight ∈ weights, AtLeast 0 weight)
    (finite : (Share.total weights).isFinite = true) :
    (∀ weight ∈ weights, weight.isFinite = true) ∧
      (1 - unit) ^ weights.length * value (Share.total weights) ≤ (weights.map value).sum := by
  cases weights with
  | nil => exact ⟨nofun, by simp [Share.total, value_of_exactly exactly_zero]⟩
  | cons weight weights =>
    obtain ⟨hweight, hrest⟩ := List.forall_mem_cons.mp hweights
    obtain ⟨hfinite, hfinites, hle⟩ := value_foldl_le hweight hrest finite
    have hnonneg : 0 ≤ value (Share.total (weight :: weights)) :=
      ((atLeast_total hweights).exactly_value finite).2
    refine ⟨List.forall_mem_cons.mpr ⟨hfinite, hfinites⟩, ?_⟩
    have hunit : 0 ≤ 1 - unit := sub_nonneg.mpr unit_le_one
    calc (1 - unit) ^ (weights.length + 1) * value (Share.total (weight :: weights))
        ≤ (1 - unit) ^ weights.length * value (Share.total (weight :: weights)) :=
          mul_le_mul_of_nonneg_right
            (pow_le_pow_of_le_one hunit (by linarith [unit_pos]) (Nat.le_succ _)) hnonneg
      _ ≤ value weight + (weights.map value).sum := hle
      _ = ((weight :: weights).map value).sum := by rw [List.map_cons, List.sum_cons]

/-! ## A walk along the shares of a finite sum -/

/-- What a share amounts to at least, for each unit of the weight. -/
def rate (t : ℚ) : ℚ := 100 * (1 - unit) ^ 2 / t

theorem atLeast_share (hweight : Exactly w weight.toModel.unpack)
    (htotal : Exactly t total.toModel.unpack) (ht : 0 < t) :
    AtLeast (rate t * w - 101 * least) (weight / total * 100) := by
  refine ((near_div hweight htotal ht).atLeast.mul exactly_hundred (by norm_num)).mono ?_
  have hleast := least_pos
  have hunit := mul_nonneg unit_pos.le hleast.le
  have hrate : rate t * w = 100 * (1 - unit) ^ 2 * (w / t) := by
    rw [rate]
    ring
  rw [hrate]
  linarith

theorem rate_nonneg (ht : 0 < t) : 0 ≤ rate t := by
  rw [rate]
  positivity

/-- A walk that does not stop has not reached the bucket with the shares of all weights. Each step
loses a relative part and less than the smallest percentage. -/
theorem le_of_walk_eq_none (htotal : Exactly t total.toModel.unpack) (ht : 0 < t)
    (hbucket : Exactly b bucket.toModel.unpack)
    (hweights : ∀ arm ∈ arms, Exactly (value arm.2) arm.2.toModel.unpack)
    (hreached : AtLeast q reached) (hpos : 0 < (arms.map (value ·.2)).sum)
    (h : walk total bucket reached arms = none) :
    (1 - unit) ^ arms.length * (q + rate t * (arms.map (value ·.2)).sum) -
      arms.length * (101 * least) ≤ b := by
  induction arms generalizing reached q with
  | nil => exact absurd hpos (lt_irrefl 0)
  | cons head rest ih =>
    obtain ⟨arm, weight⟩ := head
    obtain ⟨hweight, hrest⟩ := List.forall_mem_cons.mp hweights
    have hnext := hreached.add (atLeast_share hweight htotal ht)
    rw [walk] at h
    dsimp only at h hweight
    split at h
    · cases h
    · next hstop =>
      rw [List.map_cons, List.sum_cons] at hpos ⊢
      rw [List.length_cons, Nat.cast_succ, pow_succ]
      dsimp only at hpos ⊢
      have hshare : 0 ≤ 1 - unit := sub_nonneg.mpr unit_le_one
      have hp : 0 ≤ (1 - unit) ^ rest.length := pow_nonneg hshare _
      have hp' : (1 - unit) ^ rest.length ≤ 1 :=
        pow_le_one₀ hshare (by linarith [unit_pos])
      have hleast : 0 ≤ 101 * least := by linarith [least_pos]
      have hsum : 0 ≤ (rest.map (value ·.2)).sum :=
        List.sum_nonneg (List.forall_mem_map.mpr fun other hmem => (hrest other hmem).nonneg)
      rcases hsum.eq_or_lt with hzero | hlater
      · -- the last weight: the walk stops here if it has reached the bucket
        rw [← hzero, add_zero] at hpos ⊢
        have hbelow : (1 - unit) * (q + (rate t * value weight - 101 * least)) ≤ b :=
          not_lt.mp fun hlt => hstop ⟨lt_of_exactly exactly_zero hweight hpos, hnext.le hbucket hlt⟩
        have hn : 0 ≤ (rest.length : ℚ) * (101 * least) := mul_nonneg rest.length.cast_nonneg hleast
        have hless : (1 - unit) * (101 * least) ≤ 101 * least :=
          mul_le_of_le_one_left hleast (by linarith [unit_pos])
        rcases le_total 0 (q + rate t * value weight) with hq | hq
        · have := mul_le_of_le_one_left (mul_nonneg hshare hq) hp'
          linarith
        · have := mul_nonpos_of_nonneg_of_nonpos (mul_nonneg hp hshare) hq
          linarith [hbucket.nonneg]
      · have hlast := ih hrest hnext hlater h
        have hless : (1 - unit) ^ rest.length * (1 - unit) * (101 * least) ≤ 101 * least :=
          mul_le_of_le_one_left hleast (mul_le_one₀ hp' hshare (by linarith [unit_pos]))
        have hmore : 0 ≤ (1 - unit) ^ rest.length * unit *
            (rate t * (rest.map (value ·.2)).sum) :=
          mul_nonneg (mul_nonneg hp unit_pos.le) (mul_nonneg (rate_nonneg ht) hsum)
        linarith

/-- The walk that does not stop for as many as `2 ^ 36` weights gets beyond 99.991. -/
theorem lt_of_length_le {n : ℕ} (few : n ≤ 2 ^ 36) :
    (99991 / 1000 : ℚ) < 100 * (1 - unit) ^ (2 * n + 2) - n * (101 * least) := by
  have hbernoulli : 1 + ((2 * n + 2 : ℕ) : ℚ) * -unit ≤ (1 + -unit) ^ (2 * n + 2) :=
    one_add_mul_le_pow (by linarith [unit_le_one]) _
  have hn : (n : ℚ) ≤ 2 ^ 36 := by exact_mod_cast few
  have hunit : (n : ℚ) * unit ≤ 2 ^ 36 * unit := mul_le_mul_of_nonneg_right hn unit_pos.le
  have hleast : (n : ℚ) * (101 * least) ≤ 2 ^ 36 * (101 * unit) :=
    mul_le_mul hn (by linarith [least_le_unit]) (by linarith [least_pos]) (by norm_num)
  have hvalue : unit * 2 ^ 52 = 1 := by
    rw [unit_eq]
    norm_num
  rw [← sub_eq_add_neg] at hbernoulli
  push_cast at hbernoulli
  linarith

/-- Of a finite sum that is not zero, every bucket up to 99.991 belongs to an arm. -/
theorem exists_pick (hweights : ∀ arm ∈ arms, AtLeast 0 arm.2)
    (finite : (Share.total (arms.map (·.2) : List Float)).isFinite = true)
    (positive : ¬ Share.total (arms.map (·.2)) ≤ 0.0) (hbucket : AtMost (99991 / 1000) bucket)
    (few : arms.length ≤ 2 ^ 36) : ∃ arm, pick bucket arms = some arm := by
  have hweights' : ∀ weight ∈ arms.map (·.2), AtLeast 0 weight := List.forall_mem_map.mpr hweights
  obtain ⟨htotal, hnonneg⟩ := (atLeast_total hweights').exactly_value finite
  obtain ⟨hfinites, hle⟩ := value_total_le hweights' finite
  obtain ⟨b, hb, hbound⟩ := hbucket
  refine Option.ne_none_iff_exists'.mp fun hpick => ?_
  rw [pick] at hpick
  generalize Share.total (arms.map (·.2)) = total at *
  have ht : 0 < value total :=
    hnonneg.lt_of_ne fun heq => positive (le_of_exactly_zero (heq ▸ htotal) zero_exactly)
  have hunit : 0 < 1 - unit := sub_pos.mpr unit_lt_one
  have hsum : (1 - unit) ^ arms.length * value total ≤ (arms.map (value ·.2)).sum := by
    rwa [List.length_map, List.map_map] at hle
  have hpos : 0 < (arms.map (value ·.2)).sum :=
    (mul_pos (pow_pos hunit _) ht).trans_le hsum
  rw [if_pos (lt_of_exactly exactly_zero htotal ht)] at hpick
  have hexactly : ∀ arm ∈ arms, Exactly (value arm.2) arm.2.toModel.unpack := fun arm hmem =>
    ((hweights arm hmem).exactly_value (hfinites _ (List.mem_map_of_mem hmem))).1
  have hwalk := le_of_walk_eq_none htotal ht hb hexactly exactly_zero.atLeast hpos hpick
  have hrate : 100 * (1 - unit) ^ 2 * (1 - unit) ^ arms.length ≤
      rate (value total) * (arms.map (value ·.2)).sum := by
    calc 100 * (1 - unit) ^ 2 * (1 - unit) ^ arms.length
        = rate (value total) * ((1 - unit) ^ arms.length * value total) := by
          rw [rate]
          field_simp
      _ ≤ rate (value total) * (arms.map (value ·.2)).sum :=
          mul_le_mul_of_nonneg_left hsum (rate_nonneg ht)
  have hfull := mul_le_mul_of_nonneg_left hrate (pow_nonneg hunit.le arms.length)
  have hpower : (1 - unit) ^ arms.length * (100 * (1 - unit) ^ 2 * (1 - unit) ^ arms.length) =
      100 * (1 - unit) ^ (2 * arms.length + 2) := by ring
  rw [zero_add] at hwalk
  linarith [lt_of_length_le few]

/-! ## A walk along the shares of an infinite sum -/

/-- The number is zero or NaN. -/
def Void : UnpackedFloat → Prop
  | .zero _ => True
  | .notANumber => True
  | _ => False

theorem void_unpack_pack {x : UnpackedFloat} (h : Void x) : Void (Float.Model.pack x).unpack := by
  cases x with
  | zero s => cases s <;> exact trivial
  | notANumber => exact trivial
  | infinity _ => cases h
  | finite _ _ _ _ => cases h

/-- Nothing is left of a share of an infinite sum: a finite weight has none, and that of an infinite
one is NaN. -/
theorem void_div {x y : Float} (hx : AtLeast 0 x) (hy : y.toModel.unpack = .infinity .positive) :
    Void (x / y).toModel.unpack := by
  rw [unpack_div, hy]
  refine void_unpack_pack ?_
  rcases hx with hinfinite | ⟨v, hv, -⟩
  · rw [hinfinite]
    trivial
  · generalize x.toModel.unpack = u at hv
    cases u with
    | infinity _ => cases hv
    | notANumber => cases hv
    | _ => trivial

theorem void_mul {x y : Float} (hx : Void x.toModel.unpack) (hy : Exactly b y.toModel.unpack) :
    Void (x * y).toModel.unpack := by
  rw [unpack_mul]
  refine void_unpack_pack ?_
  generalize x.toModel.unpack = u at hx
  generalize y.toModel.unpack = w at hy
  cases u with
  | infinity _ => cases hx
  | finite _ _ _ _ => cases hx
  | notANumber => trivial
  | zero _ =>
    cases w with
    | infinity _ => cases hy
    | notANumber => cases hy
    | _ => trivial

theorem void_add {x y : Float} (hx : Void x.toModel.unpack) (hy : Void y.toModel.unpack) :
    Void (x + y).toModel.unpack := by
  rw [unpack_add]
  refine void_unpack_pack ?_
  generalize x.toModel.unpack = u at hx
  generalize y.toModel.unpack = w at hy
  cases u with
  | infinity _ => cases hx
  | finite _ _ _ _ => cases hx
  | notANumber => trivial
  | zero s =>
    cases w with
    | infinity _ => cases hy
    | finite _ _ _ _ => cases hy
    | notANumber => trivial
    | zero s' => cases s <;> cases s' <;> trivial

theorem not_le_of_void {x : Float} (hx : Void x.toModel.unpack)
    (hbucket : Exactly b bucket.toModel.unpack) (hb : 0 < b) : ¬ bucket ≤ x := by
  obtain ⟨m, e, hm, heq, -⟩ := eq_finite_of_exactly hbucket hb
  rw [le_iff, heq]
  generalize x.toModel.unpack = u at hx
  rintro ⟨r, s, hr, hs, hle⟩
  cases hr
  cases u with
  | infinity _ => cases hx
  | finite _ _ _ _ => cases hx
  | notANumber => cases hs
  | zero _ =>
    cases hs
    have : (1 : ℤ) ≤ 0 := Prod.Lex.monotone_fst _ _ hle
    omega

/-- A walk along the shares of an infinite sum does not reach any bucket but the first. -/
theorem walk_eq_none_of_infinite (htotal : total.toModel.unpack = .infinity .positive)
    (hbucket : Exactly b bucket.toModel.unpack) (hb : 0 < b)
    (hweights : ∀ arm ∈ arms, AtLeast 0 arm.2) (hreached : Void reached.toModel.unpack) :
    walk total bucket reached arms = none := by
  induction arms generalizing reached with
  | nil => rfl
  | cons head rest ih =>
    obtain ⟨arm, weight⟩ := head
    obtain ⟨hweight, hrest⟩ := List.forall_mem_cons.mp hweights
    have hnext := void_add hreached (void_mul (void_div hweight htotal) exactly_hundred)
    rw [walk, if_neg fun h => not_le_of_void hnext hbucket hb h.2]
    exact ih hrest hnext

theorem pick_eq_none_of_infinite (hweights : ∀ arm ∈ arms, AtLeast 0 arm.2)
    (infinite : (Share.total (arms.map (·.2) : List Float)).isFinite = false)
    (hbucket : Exactly b bucket.toModel.unpack) (hb : 0 < b) : pick bucket arms = none := by
  have hweights' : ∀ weight ∈ arms.map (·.2), AtLeast 0 weight := List.forall_mem_map.mpr hweights
  have htotal := (atLeast_total hweights').resolve_right fun ⟨v, hv, _⟩ => by
    have : (Share.total (arms.map (·.2) : List Float)).isFinite = true := hv.isFinite
    rw [infinite] at this
    cases this
  rw [pick]
  split
  · exact walk_eq_none_of_infinite htotal hbucket hb hweights trivial
  · rfl

end Share

/-! ## The buckets of users -/

/-- A hundredth is what it says, up to rounding. -/
theorem Bucket.exists_exactly_hundredths {n : ℕ} (hindex : n < 10000) :
    ∃ v, Exactly v (Decimal.ofNat n / 100.0).toModel.unpack ∧ |v - n / 100| ≤ 1 / 10 ^ 10 := by
  have hle : (n : ℚ) ≤ 9999 := by exact_mod_cast Nat.le_of_lt_succ hindex
  have hnonneg : (0 : ℚ) ≤ n := n.cast_nonneg
  have hleast := least_le_unit
  have hleast' := least_pos
  rw [unit_eq] at hleast
  obtain ⟨a, ha, hhigh⟩ := atMost_ofNat (hindex.trans (by decide))
  obtain ⟨-, hlow⟩ := (atLeast_ofNat n).exactly_value ha.isFinite
  rw [value_of_exactly ha] at hlow
  obtain ⟨v, hv, hexactly | ⟨-, hlarge⟩⟩ := near_div ha hundred_exactly (by norm_num)
  · refine ⟨v, hexactly, ?_⟩
    rw [unit_eq] at hv hhigh hlow
    rw [abs_le] at hv ⊢
    constructor
    · linarith
    · linarith
  · rw [unit_eq] at hv hhigh
    linarith [(abs_le.mp hv).2, two_pow_lt_large]

/-- The last of ten thousand hundredths is 99.99, up to rounding. -/
theorem Bucket.atMost_hundredths {n : ℕ} (hindex : n < 10000) :
    AtMost (99991 / 1000) (Decimal.ofNat n / 100.0) := by
  have hle : (n : ℚ) ≤ 9999 := by exact_mod_cast Nat.le_of_lt_succ hindex
  obtain ⟨v, hv, hnear⟩ := Bucket.exists_exactly_hundredths hindex
  exact ⟨v, hv, by linarith [(abs_le.mp hnear).2]⟩

/-- So is the last fine bucket. -/
theorem Bucket.atMost_fine (scope user : String) :
    AtMost (99991 / 1000) (Bucket.fine scope user) :=
  Bucket.atMost_hundredths (Nat.mod_lt _ (by decide))

namespace Experiment

variable {e : Experiment}

/-- The weights of a valid experiment are neither negative nor NaN, and their sum is not zero. -/
theorem weights_of_valid (valid : e.violation? = none) :
    (∀ v ∈ e.variants, AtLeast 0 v.weight) ∧ ¬ e.totalWeight ≤ 0.0 := by
  have isValid := violation?_eq_none_iff.mp valid
  constructor
  · intro v hv
    exact Variant.atLeast_weight (isValid.weights v hv)
  · intro hzero
    exact not_lt_of_le hzero isValid.total_pos

/-- **Variants without weight are not served** where the sum of the weights is finite. Where it is
not, the control is served in every bucket but the first, whatever it weighs. The bound of the
number of variants keeps the rounding of all steps together below the distance of the last bucket
from 100. -/
theorem zero_weights (valid : e.violation? = none) (registered : Table Segment) (enabled : Bool)
    (user : User) :
    (e.totalWeight.isFinite = true → e.variants.length ≤ 2 ^ 36 →
      ∀ v, e.assign registered enabled user = some v → 0 < v.weight) ∧
    (e.totalWeight.isFinite = false → 0 < Bucket.fine e.variantScope user.id →
      e.admits registered enabled user = true →
        e.assign registered enabled user = e.control?) := by
  obtain ⟨hvariants, htotal⟩ := weights_of_valid valid
  have hsum : e.totalWeight =
      Share.total ((e.variants.map fun v => (v, v.weight)).map (·.2) : List Float) := by
    rw [totalWeight, List.map_map]
    rfl
  have hweights : ∀ arm ∈ e.variants.map fun v => (v, v.weight), AtLeast 0 arm.2 :=
    List.forall_mem_map.mpr hvariants
  have hbucket := Bucket.atMost_fine e.variantScope user.id
  rw [hsum] at htotal ⊢
  constructor
  · intro finite few v hassign
    obtain ⟨arm, hpick⟩ := Share.exists_pick hweights finite htotal hbucket
      (by rwa [List.length_map])
    obtain ⟨-, hserved⟩ := assign_eq_some.mp hassign
    rw [pickVariant, hpick] at hserved
    cases hserved
    obtain ⟨weight, hmem, hpos⟩ := Share.exists_weight_of_pick hpick
    obtain ⟨v, -, heq⟩ := List.mem_map.mp hmem
    cases heq
    exact hpos
  · intro infinite positive hadmits
    obtain ⟨b, hb, -⟩ := hbucket
    have hpick := Share.pick_eq_none_of_infinite hweights infinite hb
      (pos_of_lt Share.exactly_zero hb positive)
    rw [assign, if_pos hadmits, pickVariant, hpick]
    rfl

/-! ### Two comparisons of colours

The control of both has no weight. In the second one the weights of the other variants are finite,
but their sum is not. -/

/-- A comparison of two colours, with a control that nobody is to see. -/
def palette (green blue : Float) : Experiment :=
  { id := "colours", name := "Colours", status := .running
    variants := [{ id := "none", weight := 0.0, isControl := true }, .named "green" green,
      .named "blue" blue] }

/-- The user who is looked at. -/
def ann : User := { id := "ann" }

theorem zero_weights_palette :
    ((palette 30.0 70.0).assign .empty true ann).isSome = true ∧
      (∀ v, (palette 30.0 70.0).assign .empty true ann = some v → 0 < v.weight) ∧
      (palette 1.7e308 1e307).assign .empty true ann = (palette 1.7e308 1e307).control? := by
  refine ⟨by decide +kernel, fun v h => ?_, ?_⟩
  · exact (zero_weights (e := palette 30.0 70.0) (by decide +kernel) .empty true ann).1
      (by decide +kernel) (by decide) v h
  · exact (zero_weights (e := palette 1.7e308 1e307) (by decide +kernel) .empty true ann).2
      (by decide +kernel) (by decide +kernel) (by decide +kernel)

/-- Where the sum of the weights is not finite, a variant without weight is served. -/
theorem zero_weight_served :
    (palette 1.7e308 1e307).violation? = none ∧
      ∃ v, (palette 1.7e308 1e307).assign .empty true ann = some v ∧ v.id = "none" ∧
        ¬ 0 < v.weight := by
  have served : (((palette 1.7e308 1e307).assign .empty true ann).any
      fun v => v.id = "none" ∧ ¬ 0 < v.weight) = true := by decide +kernel
  obtain ⟨v, hassign, hv⟩ := (Option.any_eq_true _ _).mp served
  exact ⟨by decide +kernel, v, hassign, by simpa using hv⟩

end Experiment

end FeatureTrials
