import FeatureTrials.Proofs.Experiment.Shares

/-!
# Shares in proportion to the weights

Reckoned without rounding, the walk along the shares gives every arm a run of the ten thousand fine
buckets, one run behind the other in the order of the arms. Where the run of an arm ends, its weight
and those before it have had their part of the buckets, and at most one bucket more. So the number
of buckets of an arm differs by at most one from its exact part.

* `Share.edge` — where a run ends and the next one begins.
* `Share.exists_walk` — the walk finds the arm in whose run a bucket is.
* `Experiment.shares_in_proportion` — the main result.
-/

namespace FeatureTrials

namespace Share

variable {β : Type} {weights : List ℚ} {weight : ℚ} {i j n : ℕ}

/-! ## The edges of the runs -/

/-- The part of the buckets that is due to the first weights. -/
def part (weights : List ℚ) (i : ℕ) : ℚ := 10000 * ((weights.take i).sum / weights.sum)

/-- The number of buckets of the first arms. A bucket that their shares just reach is among them, so
the first arm with a weight has the bucket zero as well. -/
def edge (weights : List ℚ) (i : ℕ) : ℕ :=
  if (weights.take i).sum = 0 then 0 else min 10000 (⌊part weights i⌋₊ + 1)

theorem edge_zero (weights : List ℚ) : edge weights 0 = 0 := by
  rw [edge, List.take_zero, List.sum_nil, if_pos rfl]

theorem edge_le (weights : List ℚ) (i : ℕ) : edge weights i ≤ 10000 := by
  rw [edge]
  split
  · exact Nat.zero_le _
  · exact min_le_left _ _

theorem edge_length (positive : 0 < weights.sum) : edge weights weights.length = 10000 := by
  have hpart : part weights weights.length = 10000 := by
    rw [part, List.take_length, div_self positive.ne', mul_one]
  have hfloor : ⌊(10000 : ℚ)⌋₊ = 10000 := Nat.floor_ofNat 10000
  rw [edge, hpart, hfloor, List.take_length, if_neg positive.ne']
  rfl

theorem sum_take_succ (hweight : weights[i]? = some weight) :
    (weights.take (i + 1)).sum = (weights.take i).sum + weight := by
  obtain ⟨hi, rfl⟩ := List.getElem?_eq_some_iff.mp hweight
  exact List.sum_take_succ weights i hi

theorem part_succ (hweight : weights[i]? = some weight) :
    part weights (i + 1) = part weights i + 10000 * (weight / weights.sum) := by
  rw [part, part, sum_take_succ hweight]
  ring

/-- An arm without weight has no buckets. -/
theorem edge_succ_of_zero (hweight : weights[i]? = some 0) :
    edge weights (i + 1) = edge weights i := by
  rw [edge, edge, part, part, sum_take_succ hweight, add_zero]

section Nonnegative

variable (nonneg : ∀ w ∈ weights, 0 ≤ w)

include nonneg

theorem sum_take_nonneg (i : ℕ) : 0 ≤ (weights.take i).sum :=
  List.sum_nonneg fun w hw => nonneg w (List.mem_of_mem_take hw)

theorem sum_take_mono (hij : i ≤ j) : (weights.take i).sum ≤ (weights.take j).sum :=
  (List.take_sublist_take_left hij).sum_le_sum fun w hw => nonneg w (List.mem_of_mem_take hw)

theorem part_nonneg (i : ℕ) : 0 ≤ part weights i :=
  mul_nonneg (by norm_num) (div_nonneg (sum_take_nonneg nonneg i) (List.sum_nonneg nonneg))

theorem part_mono (hij : i ≤ j) : part weights i ≤ part weights j :=
  mul_le_mul_of_nonneg_left
    (div_le_div_of_nonneg_right (sum_take_mono nonneg hij) (List.sum_nonneg nonneg)) (by norm_num)

theorem part_le (positive : 0 < weights.sum) (i : ℕ) : part weights i ≤ 10000 := by
  have hsum : (weights.take i).sum ≤ weights.sum :=
    (List.take_sublist i weights).sum_le_sum nonneg
  have hshare : (weights.take i).sum / weights.sum ≤ 1 := (div_le_one positive).mpr hsum
  rw [part]
  linarith

/-- The buckets of the first arms are those that their shares reach up to. -/
theorem lt_edge_iff (hn : n < 10000) :
    n < edge weights i ↔ 0 < (weights.take i).sum ∧ (n : ℚ) ≤ part weights i := by
  rw [edge]
  split
  · next hzero => simp [hzero]
  · next hsum =>
    have hpos : 0 < (weights.take i).sum := (sum_take_nonneg nonneg i).lt_of_ne' hsum
    have hfloor : n < ⌊part weights i⌋₊ + 1 ↔ (n : ℚ) ≤ part weights i :=
      Nat.lt_succ_iff.trans (Nat.le_floor_iff (part_nonneg nonneg i))
    rw [lt_min_iff, hfloor]
    simp only [hn, hpos, true_and]

theorem edge_mono : Monotone (edge weights) := by
  intro i j hij
  by_contra hlt
  have hbetween : edge weights j < edge weights i := Nat.lt_of_not_le hlt
  have hn : edge weights j < 10000 := hbetween.trans_le (edge_le weights i)
  obtain ⟨hpos, hle⟩ := (lt_edge_iff nonneg hn).mp hbetween
  have hreached := (lt_edge_iff nonneg hn).mpr
    ⟨hpos.trans_le (sum_take_mono nonneg hij), hle.trans (part_mono nonneg hij)⟩
  exact lt_irrefl _ hreached

/-- No bucket is in two runs. -/
theorem edge_unique (hi : edge weights i ≤ n) (hi' : n < edge weights (i + 1))
    (hj : edge weights j ≤ n) (hj' : n < edge weights (j + 1)) : i = j := by
  rcases Nat.lt_trichotomy i j with hlt | heq | hlt
  · have hle : edge weights (i + 1) ≤ edge weights j := edge_mono nonneg hlt
    omega
  · exact heq
  · have hle : edge weights (j + 1) ≤ edge weights i := edge_mono nonneg hlt
    omega

/-- The first arms have their part of the buckets, and at most one more. -/
theorem edge_between (positive : 0 < weights.sum) (i : ℕ) :
    part weights i ≤ edge weights i ∧ (edge weights i : ℚ) ≤ part weights i + 1 := by
  have hnonneg := part_nonneg nonneg i
  rw [edge]
  split
  · next hzero =>
    rw [part, hzero, zero_div, mul_zero]
    norm_num
  · have hfloor := Nat.floor_le hnonneg
    have hbelow := Nat.lt_floor_add_one (part weights i)
    push_cast
    refine ⟨le_min (part_le nonneg positive i) hbelow.le, ?_⟩
    exact (min_le_right _ _).trans (by linarith)

/-- So the run of an arm differs from its exact part by at most one bucket. -/
theorem abs_run_sub_le (positive : 0 < weights.sum) (hweight : weights[i]? = some weight) :
    |((edge weights (i + 1) - edge weights i : ℕ) : ℚ) - 10000 * (weight / weights.sum)| ≤ 1 := by
  obtain ⟨hlow, hhigh⟩ := edge_between nonneg positive i
  obtain ⟨hlow', hhigh'⟩ := edge_between nonneg positive (i + 1)
  rw [part_succ hweight] at hlow' hhigh'
  rw [Nat.cast_sub (edge_mono nonneg (Nat.le_succ i)), abs_le]
  constructor
  · linarith
  · linarith

end Nonnegative

/-! ## The walk -/

/-- The sum, first to last, is the sum. -/
theorem total_eq_sum (weights : List ℚ) : Share.total weights = weights.sum := by
  cases weights with
  | nil => rfl
  | cons weight weights => exact List.foldl_eq_apply_foldr

section Walk

variable {arms : List (β × ℚ)} (hweights : arms.map (·.2) = weights)
  (nonneg : ∀ w ∈ weights, 0 ≤ w) (positive : 0 < weights.sum)

include nonneg

/-- The walk stops at an arm exactly when the bucket is in its run, if it is in no run before. -/
theorem stops_iff (hweight : weights[i]? = some weight) (hn : n < 10000)
    (hfrom : edge weights i ≤ n) :
    0 < weight ∧ (n : ℚ) ≤ part weights (i + 1) ↔ n < edge weights (i + 1) := by
  rw [lt_edge_iff nonneg hn]
  constructor
  · rintro ⟨hpos, hreached⟩
    refine ⟨?_, hreached⟩
    rw [sum_take_succ hweight]
    exact add_pos_of_nonneg_of_pos (sum_take_nonneg nonneg i) hpos
  · rintro ⟨hsum, hreached⟩
    have hnonneg : 0 ≤ weight := nonneg weight (List.mem_of_getElem? hweight)
    refine ⟨hnonneg.lt_of_ne ?_, hreached⟩
    rintro rfl
    have hrun := (lt_edge_iff nonneg hn).mpr ⟨hsum, hreached⟩
    rw [edge_succ_of_zero hweight] at hrun
    exact absurd hrun (Nat.not_lt.mpr hfrom)

include hweights positive

/-- Where the walk arrives at an arm and the bucket is in no run before, it goes on to the arm in
whose run the bucket is. -/
theorem exists_walk (hn : n < 10000) {rest : List (β × ℚ)} (hdrop : arms.drop i = rest)
    (hfrom : edge weights i ≤ n) :
    ∃ j arm, arms[j]? = some arm ∧ edge weights j ≤ n ∧ n < edge weights (j + 1) ∧
      walk weights.sum ((n : ℚ) / 100) (part weights i / 100) rest = some arm.1 := by
  induction rest generalizing i with
  | nil =>
    -- behind the last arm there are no buckets left
    have hlength : weights.length ≤ i := by
      rw [← hweights, List.length_map]
      exact List.drop_eq_nil_iff.mp hdrop
    have hall := edge_mono nonneg hlength
    rw [edge_length positive] at hall
    omega
  | cons head rest ih =>
    obtain ⟨arm, weight⟩ := head
    have harm : arms[i]? = some (arm, weight) := by
      rw [← List.head?_drop, hdrop]
      rfl
    have hrest : arms.drop (i + 1) = rest := by
      rw [← List.tail_drop, hdrop]
      rfl
    have hweight : weights[i]? = some weight := by
      rw [← hweights, List.getElem?_map, harm]
      rfl
    have hreached : part weights i / 100 + weight / weights.sum * 100 =
        part weights (i + 1) / 100 := by
      rw [part_succ hweight]
      ring
    have hbucket : (n : ℚ) / 100 ≤ part weights (i + 1) / 100 ↔ (n : ℚ) ≤ part weights (i + 1) :=
      div_le_div_iff_of_pos_right (by norm_num)
    rw [walk, hreached]
    simp only [hbucket, stops_iff nonneg hweight hn hfrom]
    split
    · next hrun => exact ⟨i, _, harm, hfrom, hrun, rfl⟩
    · next hbehind => exact ih hrest (Nat.not_lt.mp hbehind)

/-- Every bucket is in the run of the arm that it picks. -/
theorem exists_pick_run (hn : n < 10000) :
    ∃ i arm, arms[i]? = some arm ∧ edge weights i ≤ n ∧ n < edge weights (i + 1) ∧
      pick ((n : ℚ) / 100) arms = some arm.1 := by
  have hfrom : edge weights 0 ≤ n := by
    rw [edge_zero]
    exact Nat.zero_le n
  have hstart : part weights 0 / 100 = 0 := by
    rw [part, List.take_zero, List.sum_nil, zero_div, mul_zero, zero_div]
  obtain ⟨i, arm, harm, hle, hlt, hwalk⟩ :=
    exists_walk hweights nonneg positive hn List.drop_zero hfrom
  rw [hstart] at hwalk
  refine ⟨i, arm, harm, hle, hlt, ?_⟩
  rw [pick, hweights, total_eq_sum, if_pos positive]
  exact hwalk

end Walk

end Share

namespace Experiment

open Decimal (value Exactly value_of_exactly)

variable {e : Experiment} {i n : ℕ}

/-! ## The fine buckets of a variant -/

/-- The weights as rational numbers, which they are unless they are infinite. -/
def exactWeights (e : Experiment) : List ℚ := e.variants.map (value ·.weight)

/-- The variant whose share holds a fine bucket, which is given in hundredths, if nothing is
rounded. There is none where `pickVariant` would leave the bucket to the control. -/
def exactPick (e : Experiment) (n : ℕ) : Option Variant :=
  Share.pick ((n : ℚ) / 100) (e.variants.map fun v => (v, value v.weight))

/-- The fine buckets of a variant, in hundredths. -/
def bucketsOf (e : Experiment) (v : Variant) : Finset ℕ :=
  (Finset.range 10000).filter fun n => (e.exactPick n).map (·.id) = some v.id

/-- Where the buckets of a variant begin. -/
def edge (e : Experiment) (i : ℕ) : ℕ := Share.edge e.exactWeights i

theorem getElem?_exactWeights (hi : i < e.variants.length) :
    e.exactWeights[i]? = some (value e.variants[i].weight) := by
  rw [exactWeights, List.getElem?_map, List.getElem?_eq_getElem hi, Option.map_some]

section Valid

variable (valid : e.violation? = none) (finite : ∀ v ∈ e.variants, v.weight.isFinite = true)

include valid finite

theorem exactly_weight : ∀ v ∈ e.variants, Exactly (value v.weight) v.weight.toModel.unpack :=
  fun v hmem => ((weights_of_valid valid).1 v hmem |>.exactly_value (finite v hmem)).1

theorem exactWeights_nonneg : ∀ w ∈ e.exactWeights, 0 ≤ w := by
  rw [exactWeights, List.forall_mem_map]
  exact fun v hmem => (exactly_weight valid finite v hmem).nonneg

theorem sum_exactWeights_pos : 0 < e.exactWeights.sum := by
  have hweights : ∀ weight ∈ e.variants.map (·.weight),
      Exactly (value weight) weight.toModel.unpack :=
    List.forall_mem_map.mpr (exactly_weight valid finite)
  have hpos := Share.sum_value_pos hweights (weights_of_valid valid).2
  rwa [List.map_map] at hpos

/-- Every bucket is in the run of the variant it picks. -/
theorem exists_exactPick (hn : n < 10000) :
    ∃ i, ∃ hi : i < e.variants.length, e.exactPick n = some e.variants[i] ∧
      e.edge i ≤ n ∧ n < e.edge (i + 1) := by
  have hweights : (e.variants.map fun v => (v, value v.weight)).map (·.2) = e.exactWeights := by
    rw [List.map_map]
    rfl
  obtain ⟨i, arm, harm, hle, hlt, hpick⟩ := Share.exists_pick_run hweights
    (exactWeights_nonneg valid finite) (sum_exactWeights_pos valid finite) hn
  rw [List.getElem?_map, Option.map_eq_some_iff] at harm
  obtain ⟨v, hv, rfl⟩ := harm
  obtain ⟨hi, rfl⟩ := List.getElem?_eq_some_iff.mp hv
  exact ⟨i, hi, hpick, hle, hlt⟩

/-- So the buckets of a variant are its run. Two variants do not share one, since their ids are
distinct. -/
theorem bucketsOf_getElem (hi : i < e.variants.length) :
    e.bucketsOf e.variants[i] = Finset.Ico (e.edge i) (e.edge (i + 1)) := by
  have hnonneg := exactWeights_nonneg valid finite
  ext n
  rw [bucketsOf, Finset.mem_filter, Finset.mem_range, Finset.mem_Ico]
  constructor
  · rintro ⟨hn, hid⟩
    obtain ⟨j, hj, hpick, hrun⟩ := exists_exactPick valid finite hn
    rw [hpick, Option.map_some, Option.some_inj] at hid
    have hnodup := (violation?_eq_none_iff.mp valid).distinct_ids
    have hids : (e.variants.map (·.id))[j]? = (e.variants.map (·.id))[i]? := by
      rw [List.getElem?_map, List.getElem?_map, List.getElem?_eq_getElem hj,
        List.getElem?_eq_getElem hi, Option.map_some, Option.map_some, hid]
    have hindex : j = i := (List.getElem?_inj (by rwa [List.length_map]) hnodup).mp hids
    exact hindex ▸ hrun
  · rintro ⟨hle, hlt⟩
    have hn : n < 10000 := hlt.trans_le (Share.edge_le _ _)
    obtain ⟨j, hj, hpick, hrun⟩ := exists_exactPick valid finite hn
    obtain rfl : j = i := Share.edge_unique hnonneg hrun.1 hrun.2 hle hlt
    exact ⟨hn, by rw [hpick, Option.map_some]⟩

theorem abs_card_bucketsOf_sub_le (hi : i < e.variants.length) :
    |((e.bucketsOf e.variants[i]).card : ℚ) -
      10000 * (value e.variants[i].weight / e.exactWeights.sum)| ≤ 1 := by
  rw [bucketsOf_getElem valid finite hi, Nat.card_Ico]
  exact Share.abs_run_sub_le (exactWeights_nonneg valid finite) (sum_exactWeights_pos valid finite)
    (getElem?_exactWeights hi)

theorem bucketsOf_eq_empty (hi : i < e.variants.length) (hzero : value e.variants[i].weight = 0) :
    e.bucketsOf e.variants[i] = ∅ := by
  have hempty : e.edge (i + 1) = e.edge i :=
    Share.edge_succ_of_zero (hzero ▸ getElem?_exactWeights hi)
  rw [bucketsOf_getElem valid finite hi, hempty, Finset.Ico_self]

end Valid

/-- **Shares are in proportion.** Without rounding, the shares of a valid experiment's variants are
in proportion to their weights, up to one bucket. No fine bucket is left to the control. The buckets
of the variants are runs, in the order in which the variants are declared, and these runs are a
partition of all ten thousand. The number of buckets in one differs from the exact part by at most
one, and a variant without weight has none. The weights are finite, since an infinite one is not a
number to reckon with. -/
theorem shares_in_proportion (valid : e.violation? = none)
    (finite : ∀ v ∈ e.variants, v.weight.isFinite = true) :
    (∀ n < 10000, ∃ v ∈ e.variants, e.exactPick n = some v) ∧
    (∃ edge : ℕ → ℕ, edge 0 = 0 ∧ edge e.variants.length = 10000 ∧ Monotone edge ∧
      ∀ i (hi : i < e.variants.length),
        e.bucketsOf e.variants[i] = Finset.Ico (edge i) (edge (i + 1))) ∧
    ∀ v ∈ e.variants,
      |((e.bucketsOf v).card : ℚ) - 10000 * (value v.weight / e.exactWeights.sum)| ≤ 1 ∧
      (value v.weight = 0 → e.bucketsOf v = ∅) := by
  refine ⟨fun n hn => ?_, ⟨e.edge, ?_, ?_, ?_, fun i hi => ?_⟩, fun v hmem => ?_⟩
  · obtain ⟨i, hi, hpick, -⟩ := exists_exactPick valid finite hn
    exact ⟨_, List.getElem_mem hi, hpick⟩
  · exact Share.edge_zero _
  · have hall := Share.edge_length (sum_exactWeights_pos valid finite)
    rwa [exactWeights, List.length_map] at hall
  · exact Share.edge_mono (exactWeights_nonneg valid finite)
  · exact bucketsOf_getElem valid finite hi
  · obtain ⟨i, hi, rfl⟩ := List.getElem_of_mem hmem
    exact ⟨abs_card_bucketsOf_sub_le valid finite hi, bucketsOf_eq_empty valid finite hi⟩

/-! ### A comparison of three colours

A third of ten thousand is no whole number of buckets. -/

theorem shares_in_proportion_palette :
    (palette 1.0 2.0).violation? = none ∧
      (∀ v ∈ (palette 1.0 2.0).variants, v.weight.isFinite = true) ∧
      (palette 1.0 2.0).bucketsOf { id := "none", weight := 0.0, isControl := true } = ∅ ∧
      |(((palette 1.0 2.0).bucketsOf (.named "green" 1.0)).card : ℚ) - 10000 / 3| ≤ 1 := by
  obtain ⟨valid, finite, one, two⟩ : (palette 1.0 2.0).violation? = none ∧
      (∀ v ∈ (palette 1.0 2.0).variants, v.weight.isFinite = true) ∧
      Exactly 1 (1.0 : Float).toModel.unpack ∧ Exactly 2 (2.0 : Float).toModel.unpack := by
    decide +kernel
  have hzero : value 0.0 = 0 := value_of_exactly Decimal.zero_exactly
  have hone : value 1.0 = 1 := value_of_exactly one
  have htwo : value 2.0 = 2 := value_of_exactly two
  have hsum : (palette 1.0 2.0).exactWeights.sum = 3 := by
    have hweights : (palette 1.0 2.0).exactWeights = [value 0.0, value 1.0, value 2.0] := rfl
    rw [hweights, hzero, hone, htwo]
    norm_num
  obtain ⟨-, -, hshares⟩ := shares_in_proportion valid finite
  refine ⟨valid, finite, (hshares _ List.mem_cons_self).2 hzero, ?_⟩
  have hgreen := (hshares (.named "green" 1.0) (List.mem_cons_of_mem _ List.mem_cons_self)).1
  have hweight : value (Variant.named "green" 1.0).weight = 1 := hone
  have hthird : (10000 : ℚ) * (1 / 3) = 10000 / 3 := by norm_num
  rwa [hsum, hweight, hthird] at hgreen

end Experiment

end FeatureTrials
