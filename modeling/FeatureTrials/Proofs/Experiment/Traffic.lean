import FeatureTrials.Proofs.Experiment.Shares

/-!
# Raising the traffic share

The traffic share decides who takes part, and another bucket decides on the variant. So a higher
share lets more users in and leaves everybody's variant as it is. A share of zero lets nobody in,
and one of a hundred everybody, since all buckets are between zero and 99.99.

* `Bucket.hundredths_bounds` — the bounds of the buckets, whatever the digest.
* `Experiment.traffic_only_adds` — the main result.
-/

namespace FeatureTrials

open Decimal

/-! ## The buckets of users -/

/-- All of the ten thousand hundredths are between zero and a hundred. -/
theorem Bucket.hundredths_bounds {n : ℕ} (hindex : n < 10000) :
    0.0 ≤ Decimal.ofNat n / 100.0 ∧ Decimal.ofNat n / 100.0 < 100.0 := by
  obtain ⟨b, hb, hle⟩ := Bucket.atMost_hundredths hindex
  refine ⟨zero_le_of_exactly hb, lt_of_exactly hb hundred_exactly ?_⟩
  linarith

theorem Bucket.fine_bounds (scope user : String) :
    0.0 ≤ Bucket.fine scope user ∧ Bucket.fine scope user < 100.0 :=
  Bucket.hundredths_bounds (Nat.mod_lt _ (by decide))

namespace Experiment

variable {e : Experiment} {registered : Table Segment} {enabled : Bool} {user : User}

/-! ## Shares of the traffic -/

/-- The experiment with another share of the traffic. -/
def withTraffic (e : Experiment) (percent : Float) : Experiment :=
  { e with trafficPercent := percent }

/-- The targeting rules and the segments let a user in. -/
def Eligible (e : Experiment) (registered : Table Segment) (enabled : Bool) (user : User) : Prop :=
  Rule.allMatch e.targetingRules user = true ∧ e.segmentsAdmit registered enabled user = true

/-- Of the eligible users, those take part whose bucket is below the share. -/
theorem admits_withTraffic_iff {percent : Float} :
    (e.withTraffic percent).admits registered enabled user = true ↔
      e.Eligible registered enabled user ∧ ¬ percent ≤ Bucket.fine e.id user.id := by
  rw [admits, Bool.and_eq_true, Bool.and_eq_true, trafficAdmits, Bool.not_eq_true',
    decide_eq_false_iff_not]
  rfl

/-- Whom a share lets in, a higher one does. -/
theorem admits_withTraffic_mono {lower higher : Float} (hle : lower ≤ higher)
    (admitted : (e.withTraffic lower).admits registered enabled user = true) :
    (e.withTraffic higher).admits registered enabled user = true := by
  obtain ⟨eligible, hbelow⟩ := admits_withTraffic_iff.mp admitted
  refine admits_withTraffic_iff.mpr ⟨eligible, fun hreached => hbelow ?_⟩
  exact Decimal.le_trans hle hreached

theorem not_admits_of_zero {percent : Float} (hzero : (percent == 0.0) = true) :
    ¬ (e.withTraffic percent).admits registered enabled user = true := by
  intro admitted
  obtain ⟨-, hbelow⟩ := admits_withTraffic_iff.mp admitted
  exact hbelow (Decimal.le_trans (le_of_beq hzero).1 (Bucket.fine_bounds e.id user.id).1)

theorem admits_of_hundred {percent : Float} (hfull : (percent == 100.0) = true)
    (eligible : e.Eligible registered enabled user) :
    (e.withTraffic percent).admits registered enabled user = true := by
  refine admits_withTraffic_iff.mpr ⟨eligible, fun hreached => ?_⟩
  have hle : 100.0 ≤ Bucket.fine e.id user.id := Decimal.le_trans (le_of_beq hfull).2 hreached
  exact not_lt_of_le hle (Bucket.fine_bounds e.id user.id).2

/-- **Traffic only adds users.** Raising the traffic share moves nobody: who is assigned a variant
at a share is assigned the same one at every higher share. Nobody is assigned one at a share of
zero, and at a share of a hundred exactly those are who are eligible. -/
theorem traffic_only_adds (variants : e.variants ≠ []) (registered : Table Segment)
    (enabled : Bool) (user : User) :
    (∀ lower higher v, lower ≤ higher →
      (e.withTraffic lower).assign registered enabled user = some v →
      (e.withTraffic higher).assign registered enabled user = some v) ∧
    (∀ percent, (percent == 0.0) = true →
      (e.withTraffic percent).assign registered enabled user = none) ∧
    (∀ percent, (percent == 100.0) = true →
      ((∃ v, (e.withTraffic percent).assign registered enabled user = some v) ↔
        e.Eligible registered enabled user)) := by
  refine ⟨fun lower higher v hle hassign => ?_, fun percent hzero => ?_, fun percent hfull => ?_⟩
  · obtain ⟨admitted, hpick⟩ := assign_eq_some.mp hassign
    exact assign_eq_some.mpr ⟨admits_withTraffic_mono hle admitted, hpick⟩
  · rw [assign, if_neg (not_admits_of_zero hzero)]
  · constructor
    · rintro ⟨v, hassign⟩
      obtain ⟨admitted, -⟩ := assign_eq_some.mp hassign
      exact (admits_withTraffic_iff.mp admitted).1
    · intro eligible
      exact exists_assign (e := e.withTraffic percent) variants (admits_of_hundred hfull eligible)

/-! ### A comparison that is opened to more users

The bucket of the user is 6.85, so a tenth of the traffic includes her. -/

theorem traffic_only_adds_palette :
    (palette 30.0 70.0).variants ≠ [] ∧ (10.0 : Float) ≤ 80.0 ∧
      (∃ v, ((palette 30.0 70.0).withTraffic 10.0).assign .empty true ann = some v ∧
        ((palette 30.0 70.0).withTraffic 80.0).assign .empty true ann = some v) ∧
      ((palette 30.0 70.0).withTraffic 0.0).assign .empty true ann = none := by
  have variants : (palette 30.0 70.0).variants ≠ [] := List.cons_ne_nil _ _
  obtain ⟨hle, hzero, admitted⟩ : (10.0 : Float) ≤ 80.0 ∧ ((0.0 : Float) == 0.0) = true ∧
      ((palette 30.0 70.0).withTraffic 10.0).admits .empty true ann = true := by
    decide +kernel
  obtain ⟨v, hassign⟩ := exists_assign (e := (palette 30.0 70.0).withTraffic 10.0) variants admitted
  obtain ⟨hraise, hnobody, -⟩ := traffic_only_adds variants .empty true ann
  exact ⟨variants, hle, ⟨v, hassign, hraise _ _ v hle hassign⟩, hnobody 0.0 hzero⟩

end Experiment

end FeatureTrials
