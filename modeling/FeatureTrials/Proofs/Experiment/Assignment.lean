import FeatureTrials.Experiment.Assignment

/-!
# What a user is assigned

The walk along the shares stops at one of the arms, so the variant a user is assigned is one that
the experiment declares.
-/

namespace FeatureTrials

namespace Share

variable {α β : Type} [Add α] [Mul α] [Div α] [OfNat α 0] [OfNat α 100]
  [LT α] [LE α] [DecidableLT α] [DecidableLE α]
  {arms : List (β × α)} {arm : β} {total bucket reached : α}

/-- The walk stops at one of the arms, and that one has a positive weight. -/
theorem exists_weight_of_walk (h : walk total bucket reached arms = some arm) :
    ∃ weight, (arm, weight) ∈ arms ∧ 0 < weight := by
  induction arms generalizing reached with
  | nil => cases h
  | cons head rest ih =>
    rw [walk] at h
    split at h
    · next hstop =>
      cases h
      exact ⟨head.2, List.mem_cons_self, hstop.1⟩
    · obtain ⟨weight, hmem, hpos⟩ := ih h
      exact ⟨weight, List.mem_cons_of_mem _ hmem, hpos⟩

theorem exists_weight_of_pick (h : pick bucket arms = some arm) :
    ∃ weight, (arm, weight) ∈ arms ∧ 0 < weight := by
  unfold pick at h
  dsimp only at h
  split at h
  · exact exists_weight_of_walk h
  · cases h

end Share

namespace Experiment

variable {e : Experiment} {v : Variant} {bucket : Float}

theorem control?_mem (h : e.control? = some v) : v ∈ e.variants := by
  unfold control? at h
  cases hmarked : e.variants.find? (·.isControl) with
  | some marked =>
    rw [hmarked] at h
    cases h
    exact List.mem_of_find?_eq_some hmarked
  | none =>
    rw [hmarked] at h
    exact List.mem_of_head? h

/-- Every bucket holds a declared variant. -/
theorem pickVariant_mem (h : e.pickVariant bucket = some v) : v ∈ e.variants := by
  unfold pickVariant at h
  cases hpick : Share.pick bucket (e.variants.map fun v => (v, v.weight)) with
  | some picked =>
    rw [hpick] at h
    cases h
    obtain ⟨weight, hmem, -⟩ := Share.exists_weight_of_pick hpick
    obtain ⟨declared, hdeclared, heq⟩ := List.mem_map.mp hmem
    cases heq
    exact hdeclared
  | none =>
    rw [hpick] at h
    exact control?_mem h

/-- An experiment with variants has one for every bucket. -/
theorem exists_pickVariant (variants : e.variants ≠ []) (bucket : Float) :
    ∃ v, e.pickVariant bucket = some v := by
  obtain ⟨first, rest, hvariants⟩ := List.exists_cons_of_ne_nil variants
  have control : ∃ v, e.control? = some v := by
    rw [control?]
    cases e.variants.find? (·.isControl) with
    | some marked => exact ⟨marked, rfl⟩
    | none => exact ⟨first, by simp [hvariants]⟩
  rw [pickVariant]
  cases Share.pick bucket (e.variants.map fun v => (v, v.weight)) with
  | some picked => exact ⟨picked, rfl⟩
  | none => exact control

/-- Who is assigned a variant takes part, and the variant is the one of their bucket. -/
theorem assign_eq_some {registered : Table Segment} {enabled : Bool} {user : User} :
    e.assign registered enabled user = some v ↔
      e.admits registered enabled user = true ∧
        e.pickVariant (Bucket.fine e.variantScope user.id) = some v := by
  unfold assign
  split
  · next h => simp only [h, true_and]
  · next h => simp only [h, Bool.false_eq_true, false_and, reduceCtorEq]

/-- Who takes part in an experiment with variants is assigned one. -/
theorem exists_assign {registered : Table Segment} {enabled : Bool} {user : User}
    (variants : e.variants ≠ []) (admitted : e.admits registered enabled user = true) :
    ∃ v, e.assign registered enabled user = some v := by
  obtain ⟨v, hpick⟩ := exists_pickVariant variants (Bucket.fine e.variantScope user.id)
  exact ⟨v, assign_eq_some.mpr ⟨admitted, hpick⟩⟩

/-- Of an experiment with variants, only those get none who do not take part. -/
theorem assign_eq_none_iff {registered : Table Segment} {enabled : Bool} {user : User}
    (variants : e.variants ≠ []) :
    e.assign registered enabled user = none ↔ e.admits registered enabled user = false := by
  cases hadmits : e.admits registered enabled user with
  | true =>
    obtain ⟨v, hassign⟩ := exists_assign variants hadmits
    rw [hassign]
    exact iff_of_false nofun nofun
  | false =>
    rw [assign, hadmits]
    exact iff_of_true rfl rfl

end Experiment

end FeatureTrials
