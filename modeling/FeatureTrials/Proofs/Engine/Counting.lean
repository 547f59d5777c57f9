import FeatureTrials.Engine.Definitions
import FeatureTrials.Proofs.Analytics.Reports
import FeatureTrials.Proofs.Experiment.Verdict

/-!
# Counts that fit 64 bits

Comparisons of any counts add them up as words of 64 bits, and engines as they are. Where the sums
fit, this makes no difference (`Experiment.calculate_eq_compare`). For the counts of an engine they
do: no sum is larger than the number of exposures on record, and an engine cannot hold 2^64 of them
(`Engine.calculate_eq_compare`).
-/

namespace FeatureTrials

open Significance

namespace Experiment

variable {e : Experiment} {samples : Table Sample} {level : Float} {minSampleSize : ℕ}
  {now : Instant}

/-- Where the sums fit, it does not matter how counts are added. -/
theorem calculate_eq_compare
    (total : ((e.variantResults samples level).names.map fun id =>
      ((samples.get? id).getD {}).samples).sum < 2 ^ 64)
    (pairs : ∀ v ∈ e.variants, ∀ w ∈ e.variants, v.id ≠ w.id →
      (sampleOf samples v).conversions + (sampleOf samples w).conversions < 2 ^ 64) :
    e.calculate samples level minSampleSize now = e.compare samples level minSampleSize now := by
  have hobserve : e.observe addWords samples level now = e.observe (· + ·) samples level now := by
    have hsum : (e.variantResults samples level).values.foldl
          (fun total v => addWords total v.samples) 0 =
        (e.variantResults samples level).values.foldl (fun total v => total + v.samples) 0 := by
      have hwords := foldl_addWords ((e.variantResults samples level).values.map (·.samples))
        (Nat.two_pow_pos 64)
      rw [← @samples_variantResults e samples level] at total
      rw [Nat.zero_add, Nat.mod_eq_of_lt total, List.sum_eq_foldl, List.foldl_map,
        List.foldl_map] at hwords
      exact hwords
    rw [observe, observe]
    exact congrArg (fun total => { e.observe addWords samples level now with
      totalSamples := total }) hsum
  rw [calculate, compare, compareBy, compareBy, hobserve]
  cases hcontrol : e.control? with
  | none => rfl
  | some control =>
    dsimp only
    cases hchallenger : e.challenger? samples control with
    | none => rfl
    | some challenger =>
      obtain ⟨hmem, hne⟩ := mem_of_challenger? hchallenger
      have htest : twoProportionTest addWords (sampleOf samples control)
            (sampleOf samples challenger) =
          twoProportionTest (· + ·) (sampleOf samples control) (sampleOf samples challenger) := by
        have hfits := pairs control (control?_mem hcontrol) challenger hmem hne.symm
        rw [twoProportionTest, twoProportionTest, addWords_of_lt hfits]
      dsimp only
      rw [htest]

end Experiment

namespace EventLog

/-- There are not more users of different variants than exposures. -/
theorem sum_card_usersOf_le (log : EventLog) (experiment : String) {names : List String}
    (nodup : names.Nodup) :
    (names.map fun id => (log.usersOf experiment id).card).sum ≤
      (log.exposuresOf experiment).length := by
  refine le_trans (List.sum_le_sum fun id _ => ?_)
    (sum_map_countP_le nodup (·.variant) (log.exposuresOf experiment))
  rw [usersOf, List.countP_eq_length_filter, ← List.length_map (·.user)]
  simp only [beq_eq_decide]
  exact List.toFinset_card_le _

/-- Who has converted counts among the users of a variant. -/
theorem conversions_le_samples (log : EventLog) (experiment variant : String) :
    (((log.samples experiment).get? variant).getD {}).conversions ≤
      (((log.samples experiment).get? variant).getD {}).samples := by
  rw [samples, Table.get?_tabulate]
  split
  · exact conversions_sampleOf_le _ _
  · exact le_rfl

end EventLog

namespace Engine

/-- What an engine says of an experiment is what its counts say in 64 bits, as long as there are not
too many events to count. -/
theorem calculate_eq_compare {engine : Engine}
    (few : engine.analytics.log.exposures.size < 2 ^ 64) (e : Experiment) (now : Instant) :
    e.calculate (engine.analytics.log.samples e.id) engine.config.significance
      engine.config.minSampleSize now = engine.compare e now := by
  have hexposures : (engine.analytics.log.exposuresOf e.id).length < 2 ^ 64 :=
    (List.length_filter_le _ _).trans_lt few
  refine Experiment.calculate_eq_compare ?_ fun v _ w _ hne => ?_
  · simp only [EventLog.samples_eq_card]
    exact (EventLog.sum_card_usersOf_le _ _ (Table.nodup_names _)).trans_lt hexposures
  · have hpair : [v.id, w.id].Nodup := by simpa using hne
    have hsum := engine.analytics.log.sum_card_usersOf_le e.id hpair
    simp only [← EventLog.samples_eq_card, List.map_cons, List.map_nil, List.sum_cons,
      List.sum_nil] at hsum
    have hv := engine.analytics.log.conversions_le_samples e.id v.id
    have hw := engine.analytics.log.conversions_le_samples e.id w.id
    rw [Experiment.sampleOf, Experiment.sampleOf]
    omega

end Engine

end FeatureTrials
